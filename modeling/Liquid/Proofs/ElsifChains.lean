import Liquid.Proofs.AlikeTokens
import Liquid.Proofs.Deadlines
import Liquid.Proofs.LoopControl

/-!
# Chains of branches as blocks within blocks

`elsif` saves an `else` with a block of its own. Both ways of writing are read by different paths of
the parser and rendered at different depths, and mean the same.

## Main result

`Template.parse_unfolded`: a template with a chain of branches parses just if the one does in which
each `elsif` became `else` and a block within, and both render alike up to their deadlines. A
condition is asked only if all before it failed. `Template.nested_runs_late` is a deadline that
passes between the two: a block of its own is a node, in front of which the deadline is checked once
more.

## Proof strategy

The bodies of branches are balanced, so what is made of them is made of them on their own
(`Building.getsThrough_of_moves`). By induction over the unfolding, one row ends a block of branches
just if the other does, with branches that do the same behind recovery (`Unfolds.ends`). All around
the block is read alike on both sides (`Building.Likewise`). What both do is compared without a
deadline, which only ends a render (`renderAll_timeless`).
-/

namespace Liquid

/-- The tag of a condition matters only for its faults. -/
theorem Condition.parse_ok_of_tag {tag markup : String} {c : Condition} (tag' : String)
    (read : Condition.parse tag markup = .ok c) : Condition.parse tag' markup = .ok c := by
  unfold Condition.parse at read ⊢
  cases words : words? markup.toList with
  | none => simp [words] at read
  | some found =>
    simp only [words] at read ⊢
    split at read
    next => cases read
    next few =>
      rw [if_neg few]
      split at read
      next => exact read
      next => cases read

/-! ### Unfolding -/

/-- What follows the nodes of a branch, up to the end of its block, and the same with a block behind
`else` for each further condition. -/
inductive Unfolds : List Token → List Token → Prop where
  | done {last last' : Token} {ignored ignored' : String} :
      last.IsTag "endif" ignored → last'.IsTag "endif" ignored' → Unfolds [last] [last']
  | otherwise {t t' last last' : Token} {body body' : List Token}
      {ignored ignored' also also' : String} :
      t.IsTag "else" ignored → t'.IsTag "else" ignored' →
      Balanced body → List.Forall₂ Token.Alike body body' →
      last.IsTag "endif" also → last'.IsTag "endif" also' →
      Unfolds (t :: (body ++ [last])) (t' :: (body' ++ [last']))
  | next {t other inner last : Token} {body body' rest rest' : List Token}
      {name markup ignored also : String} :
      name = "elsif" ∨ name = "elseif" → t.IsTag name markup →
      other.IsTag "else" ignored → inner.IsTag "if" markup →
      Balanced body → List.Forall₂ Token.Alike body body' → Unfolds rest rest' →
      last.IsTag "endif" also →
      Unfolds (t :: (body ++ rest)) (other :: (inner :: (body' ++ rest') ++ [last]))

/-- A row of tokens with a block of branches somewhere, and the same row with that block
unfolded. -/
inductive Unfolded : List Token → List Token → Prop where
  | intro {before before' after after' body body' rest rest' : List Token} {t t' : Token}
      {markup : String} :
      List.Forall₂ Token.Alike before before' → List.Forall₂ Token.Alike after after' →
      t.IsTag "if" markup → t'.IsTag "if" markup →
      Balanced body → List.Forall₂ Token.Alike body body' → Unfolds rest rest' →
      Unfolded (before ++ t :: (body ++ rest) ++ after)
        (before' ++ t' :: (body' ++ rest') ++ after')

namespace Building

variable {b b' : Building} {t : Token}

/-! ### Tags of blocks of branches -/

private theorem opens_of_move {markup : String} (isTag : t.IsTag "if" markup) (move : Move t b b') :
    ∃ c, Condition.parse "if" markup = .ok c ∧
      b' = ⟨[], branchBlock t.span markup [] c b.nodes :: b.blocks⟩ := by
  cases move with
  | openBranches isTag' read =>
    obtain ⟨-, rfl⟩ := isTag.unique isTag'
    exact ⟨_, read, rfl⟩
  | text kind => simp [isTag.1] at kind
  | output kind => simp [isTag.1] at kind
  | leaf isTag' leaf =>
    have same := (isTag.unique isTag').1
    cases leaf <;> simp at same
  | openRow isTag' => simpa using (isTag.unique isTag').1
  | nextBranch isTag' _ reads =>
    have same := (isTag.unique isTag').1
    rcases reads with ⟨rfl, _⟩ | ⟨rfl | rfl, _⟩ <;> simp at same
  | closeBranches isTag' => simpa using (isTag.unique isTag').1
  | closeRow isTag' => simpa using (isTag.unique isTag').1

/-- `else` and further conditions begin a branch behind one that is no `else`. -/
theorem divides_of_move {name markup : String} (isTag : t.IsTag name markup)
    (divides : name = "else" ∨ name = "elsif" ∨ name = "elseif") (move : Move t b b') :
    ∃ (nodes before : List Node) (outer : List OpenBlock) (span : Span) (opened : String)
      (complete : List (Condition × List Node)) (c next : Condition),
      b = ⟨nodes, branchBlock span opened complete c before :: outer⟩ ∧ c.isElse = false ∧
      (name = "else" ∧ next = .last .always ∨
        (name = "elsif" ∨ name = "elseif") ∧ Condition.parse name markup = .ok next) ∧
      b' = ⟨[], branchBlock span opened ((c, nodes.reverse) :: complete) next before :: outer⟩ := by
  cases move with
  | nextBranch isTag' unfinished reads =>
    obtain ⟨rfl, rfl⟩ := isTag.unique isTag'
    exact ⟨_, _, _, _, _, _, _, _, rfl, unfinished, reads, rfl⟩
  | text kind => simp [isTag.1] at kind
  | output kind => simp [isTag.1] at kind
  | leaf isTag' leaf =>
    have same := (isTag.unique isTag').1
    subst same
    cases leaf <;> simp at divides
  | openBranches isTag' => simp [(isTag.unique isTag').1] at divides
  | openRow isTag' => simp [(isTag.unique isTag').1] at divides
  | closeBranches isTag' => simp [(isTag.unique isTag').1] at divides
  | closeRow isTag' => simp [(isTag.unique isTag').1] at divides

end Building

/-! ### The ends of blocks of branches -/

open Building

/-- Inside some block of branches the row gets through. -/
def Closable (rest : List Token) : Prop :=
  ∃ (nodes before : List Node) (outer : List OpenBlock) (span : Span) (markup : String)
    (complete : List (Condition × List Node)) (c : Condition) (b' : Building),
    c.isElse = false ∧ Moves rest ⟨nodes, branchBlock span markup complete c before :: outer⟩ b'

/-- Inside any block of branches the row ends it, with more branches like these. -/
def Ends (rest : List Token) (more : List (Condition × List Node)) : Prop :=
  ∀ (nodes before : List Node) (outer : List OpenBlock) (span : Span) (markup : String)
    (complete : List (Condition × List Node)) (c : Condition), c.isElse = false →
    ∃ more', List.Forall₂ BranchMatches more more' ∧
      Moves rest ⟨nodes, branchBlock span markup complete c before :: outer⟩
        ⟨.tag span "if" markup
          (.branches (((c, nodes.reverse) :: complete).reverse ++ more')) :: before, outer⟩

section

variable {t last inner : Token} {body rest : List Token} {nodes : List Node} {c : Condition}
  {more : List (Condition × List Node)} {markup ignored : String}

private theorem ends_done (isTag : last.IsTag "endif" ignored) : Ends [last] [] := by
  intro nodes before outer span markup complete c _
  refine ⟨[], .nil, ?_⟩
  rw [List.append_nil]
  exact .one (.closeBranches isTag)

theorem ends_otherwise (isTag : t.IsTag "else" ignored)
    (alone : Moves body Building.empty ⟨nodes, []⟩) {also : String}
    (ends : last.IsTag "endif" also) :
    Ends (t :: (body ++ [last])) [(.last .always, nodes.reverse)] := by
  intro filled before outer span markup complete c unfinished
  obtain ⟨within, same, moves⟩ := moves_of_alone (Token.alike_refl body) alone
    ⟨[], branchBlock span markup ((c, filled.reverse) :: complete) (.last .always) before :: outer⟩
  refine ⟨[(.last .always, within.reverse)], .cons ⟨rfl, List.rel_reverse same⟩ .nil, ?_⟩
  rw [List.append_nil] at moves
  have closed := moves.append (.one (.closeBranches ends))
  rw [List.reverse_cons] at closed
  exact .more (.nextBranch isTag unfinished (.inl ⟨rfl, rfl⟩)) closed

private theorem ends_next {name : String} (isTag : t.IsTag name markup)
    (divides : name = "elsif" ∨ name = "elseif") (read : Condition.parse name markup = .ok c)
    (alone : Moves body Building.empty ⟨nodes, []⟩) (ends : Ends rest more) :
    Ends (t :: (body ++ rest)) ((c, nodes.reverse) :: more) := by
  intro filled before outer span opened complete first unfinished
  obtain ⟨within, same, moves⟩ := moves_of_alone (Token.alike_refl body) alone
    ⟨[], branchBlock span opened ((first, filled.reverse) :: complete) c before :: outer⟩
  rw [List.append_nil] at moves
  obtain ⟨more', behind, closes⟩ := ends within before outer span opened
    ((first, filled.reverse) :: complete) c (Condition.isElse_of_parse read)
  refine ⟨(c, within.reverse) :: more', .cons ⟨rfl, List.rel_reverse same⟩ behind, ?_⟩
  rw [List.reverse_cons, List.append_assoc, List.singleton_append] at closes
  exact .more (.nextBranch isTag unfinished (.inr ⟨divides, read⟩)) (moves.append closes)

/-- A whole block of branches. -/
theorem moves_block (isTag : inner.IsTag "if" markup)
    (read : Condition.parse "if" markup = .ok c)
    (alone : Moves body Building.empty ⟨nodes, []⟩) (ends : Ends rest more) (b : Building) :
    ∃ branches, List.Forall₂ BranchMatches ((c, nodes.reverse) :: more) branches ∧
      Moves (inner :: (body ++ rest)) b
        ⟨.tag inner.span "if" markup (.branches branches) :: b.nodes, b.blocks⟩ := by
  obtain ⟨within, same, moves⟩ := moves_of_alone (Token.alike_refl body) alone
    ⟨[], branchBlock inner.span markup [] c b.nodes :: b.blocks⟩
  rw [List.append_nil] at moves
  obtain ⟨more', behind, closes⟩ := ends within b.nodes b.blocks inner.span markup [] c
    (Condition.isElse_of_parse read)
  exact ⟨(c, within.reverse) :: more', .cons ⟨rfl, List.rel_reverse same⟩ behind,
    .more (.openBranches isTag read) (moves.append closes)⟩

/-- No host code is in the branches of a block over the standard tags. -/
theorem known_of_block {ts : List Token} {span : Span} {name : String}
    {branches : List (Condition × List Node)}
    (moves : Moves ts Building.empty ⟨[.tag span name markup (.branches branches)], []⟩) :
    ∀ part ∈ branchParts branches, part ≠ .host := by
  intro part member
  refine known_of_moves moves part ?_
  simpa [allParts, Node.parts, Tag.parts] using member

/-- The frame of a block of branches is spare. -/
theorem stack_block {s : Setting} (timeless : s.deadline = none) (p : Progress)
    (isTag : inner.IsTag "if" markup)
    (read : Condition.parse "if" markup = .ok c)
    (alone : Moves body Building.empty ⟨nodes, []⟩) (ends : Ends rest more) :
    Render.stack (renderFirst ((c, nodes.reverse) :: more)) s p =
      renderFirst ((c, nodes.reverse) :: more) s p := by
  obtain ⟨branches, same, moves⟩ := moves_block isTag read alone ends Building.empty
  rw [Render.stack, renderFirst_eq_of_matches timeless same]
  exact congrFun₂ (stack_renderFirst (known_of_block moves)) s p

/-- Inside a branch that is no `else`, a balanced body and what ends the block. -/
theorem closable_of_moves {before : List Node} {outer : List OpenBlock} {span : Span}
    {complete : List (Condition × List Node)} {b' : Building} (balanced : Balanced body)
    (unfinished : c.isElse = false)
    (moves : Moves (body ++ rest) ⟨[], branchBlock span markup complete c before :: outer⟩ b') :
    GetsThrough body ∧ Closable rest := by
  obtain ⟨between, first, last⟩ := moves.exists_between
  obtain ⟨alone, filled, rfl⟩ := getsThrough_of_moves balanced first
  exact ⟨alone, filled, before, outer, span, markup, complete, c, b', unfinished, last⟩

private theorem getsThrough_of_closable (balanced : Balanced body)
    (closable : Closable (t :: (body ++ rest))) : GetsThrough body := by
  obtain ⟨_, _, _, _, _, _, _, _, _, moves⟩ := closable
  cases moves with
  | more _ moves =>
    obtain ⟨_, first, _⟩ := moves.exists_between
    exact (getsThrough_of_moves balanced first).1

private theorem closable_next {name : String} (isTag : t.IsTag name markup)
    (divides : name = "elsif" ∨ name = "elseif") (balanced : Balanced body)
    (closable : Closable (t :: (body ++ rest))) :
    ∃ c, Condition.parse name markup = .ok c ∧ GetsThrough body ∧ Closable rest := by
  obtain ⟨_, _, _, _, _, _, _, _, _, moves⟩ := closable
  cases moves with
  | more move moves =>
    obtain ⟨_, _, _, _, _, _, _, next, _, _, reads, rfl⟩ :=
      divides_of_move isTag (.inr divides) move
    rcases reads with ⟨rfl, _⟩ | ⟨_, read⟩
    · simp at divides
    · exact ⟨next, read, closable_of_moves balanced (Condition.isElse_of_parse read) moves⟩

theorem closable_of_block (isTag : inner.IsTag "if" markup) (balanced : Balanced body)
    {b b' : Building} (moves : Moves (inner :: (body ++ rest)) b b') :
    ∃ c, Condition.parse "if" markup = .ok c ∧ GetsThrough body ∧ Closable rest := by
  cases moves with
  | more move moves =>
    obtain ⟨c, read, rfl⟩ := opens_of_move isTag move
    exact ⟨c, read, closable_of_moves balanced (Condition.isElse_of_parse read) moves⟩

private theorem closable_nested (isTag : inner.IsTag "if" markup) (balanced : Balanced body)
    (closable : Closable (t :: (inner :: (body ++ rest) ++ [last]))) :
    ∃ c, Condition.parse "if" markup = .ok c ∧ GetsThrough body ∧ Closable rest := by
  obtain ⟨_, _, _, _, _, _, _, _, _, moves⟩ := closable
  cases moves with
  | more _ moves =>
    obtain ⟨_, block, _⟩ := moves.exists_between
    exact closable_of_block isTag balanced block

end

/-- One of two bodies that read alike gets through just if the other does. -/
theorem both_alone {body body' : List Token} (alike : List.Forall₂ Token.Alike body body')
    (either : GetsThrough body ∨ GetsThrough body') :
    ∃ nodes nodes', List.Forall₂ Node.Matches nodes nodes' ∧
      Moves body Building.empty ⟨nodes, []⟩ ∧ Moves body' Building.empty ⟨nodes', []⟩ := by
  rcases either with ⟨nodes, alone⟩ | ⟨nodes', alone⟩
  · obtain ⟨nodes', same, moves⟩ := moves_of_alone alike alone Building.empty
    exact ⟨nodes, nodes', same, alone, by simpa [Building.empty] using moves⟩
  · obtain ⟨nodes, same, moves⟩ :=
      moves_of_alone (forall₂_swap Token.Alike.symm alike) alone Building.empty
    exact ⟨nodes, nodes', forall₂_swap Node.Matches.symm same,
      by simpa [Building.empty] using moves, alone⟩

/-- The rows of an unfolding end blocks of branches alike, and one does just if the other does. -/
theorem Unfolds.ends {rest rest' : List Token} (unfolds : Unfolds rest rest')
    (either : Closable rest ∨ Closable rest') :
    ∃ more more', Ends rest more ∧ Ends rest' more' ∧
      Recovers (renderFirst more) (renderFirst more') := by
  induction unfolds with
  | done isTag isTag' => exact ⟨[], [], ends_done isTag, ends_done isTag', Recovers.refl _⟩
  | @otherwise t t' last last' body body' _ _ _ _ isTag isTag' balanced alike last last' =>
    have balanced' := balanced.of_alike alike
    have alone := either.imp (getsThrough_of_closable balanced) (getsThrough_of_closable balanced')
    obtain ⟨nodes, nodes', same, alone, alone'⟩ := both_alone alike alone
    exact ⟨_, _, ends_otherwise isTag alone last, ends_otherwise isTag' alone' last',
      recovers_cons _ (List.rel_reverse same) (Recovers.refl _)⟩
  | @next t other inner last body body' rest rest' name markup _ _ divides isTag otherTag innerTag
      balanced alike _ lastTag ih =>
    obtain ⟨c, read, alone, closable⟩ : ∃ c, Condition.parse "if" markup = .ok c ∧
        (GetsThrough body ∨ GetsThrough body') ∧ (Closable rest ∨ Closable rest') := by
      rcases either with chain | nested
      · obtain ⟨c, read, alone, closable⟩ := closable_next isTag divides balanced chain
        exact ⟨c, Condition.parse_ok_of_tag "if" read, .inl alone, .inl closable⟩
      · obtain ⟨c, read, alone, closable⟩ :=
          closable_nested innerTag (balanced.of_alike alike) nested
        exact ⟨c, read, .inr alone, .inr closable⟩
    obtain ⟨nodes, nodes', same, alone, alone'⟩ := both_alone alike alone
    obtain ⟨more, more', ends, ends', behind⟩ := ih closable
    obtain ⟨branches, nested, moves⟩ := moves_block innerTag read alone' ends' Building.empty
    refine ⟨_, _, ends_next isTag divides (Condition.parse_ok_of_tag name read) alone ends,
      ends_otherwise otherTag moves lastTag, ?_⟩
    have inner := recovers_cons c (List.rel_reverse same) behind
    refine inner.trans (.trans (fun s p timeless => ?_)
      (recovers_nested _ _ _ (known_of_block moves)))
    rw [Render.recover, Render.recover, renderFirst_eq_of_matches timeless nested]

/-! ### A block somewhere in a template -/

section

variable {before before' after after' body body' rest rest' : List Token} {t t' : Token}
  {markup : String} {b b' c : Building}

/-- The block and its unfolding, behind what is built alike. -/
theorem Building.Likewise.block {depth : Nat}
    (likewise : Likewise Building.empty Building.empty depth b c)
    (isTag : t.IsTag "if" markup) (isTag' : t'.IsTag "if" markup) (balanced : Balanced body)
    (alike : List.Forall₂ Token.Alike body body') (unfolds : Unfolds rest rest')
    (either : (∃ m, Moves (t :: (body ++ rest)) b m) ∨ ∃ m, Moves (t' :: (body' ++ rest')) c m) :
    ∃ m m', Moves (t :: (body ++ rest)) b m ∧ Moves (t' :: (body' ++ rest')) c m' ∧
      Likewise Building.empty Building.empty depth m m' := by
  obtain ⟨first, read, alone, closable⟩ : ∃ first, Condition.parse "if" markup = .ok first ∧
      (GetsThrough body ∨ GetsThrough body') ∧ (Closable rest ∨ Closable rest') := by
    rcases either with ⟨_, moves⟩ | ⟨_, moves⟩
    · obtain ⟨first, read, alone, closable⟩ := closable_of_block isTag balanced moves
      exact ⟨first, read, .inl alone, .inl closable⟩
    · obtain ⟨first, read, alone, closable⟩ :=
        closable_of_block isTag' (balanced.of_alike alike) moves
      exact ⟨first, read, .inr alone, .inr closable⟩
  obtain ⟨nodes, nodes', same, alone, alone'⟩ := both_alone alike alone
  obtain ⟨more, more', ends, ends', behind⟩ := unfolds.ends closable
  obtain ⟨branches, written, moves⟩ := moves_block isTag read alone ends b
  obtain ⟨branches', written', moves'⟩ := moves_block isTag' read alone' ends' c
  have matching : Node.Matches (.tag t.span "if" markup (.branches branches))
      (.tag t'.span "if" markup (.branches branches')) := by
    intro s p timeless
    have inside := recovers_cons first (List.rel_reverse same) behind s p timeless
    rw [Render.recover, Render.recover] at inside ⊢
    rw [Node.render, Node.render, Tag.render, Tag.render, Render.stack, Render.stack,
      ← renderFirst_eq_of_matches timeless written, ← renderFirst_eq_of_matches timeless written']
    have spare := stack_block timeless p isTag read alone ends
    have spare' := stack_block timeless p isTag' read alone' ends'
    rw [Render.stack] at spare spare'
    rw [spare, spare']
    exact inside
  exact ⟨_, _, moves, moves', likewise.add matching⟩

/-- What goes through behind alike tokens and before alike tokens makes alike nodes. -/
theorem moves_around {middle middle' : List Token}
    (alikeBefore : List.Forall₂ Token.Alike before before')
    (alikeAfter : List.Forall₂ Token.Alike after after')
    (through : ∀ depth b c m, b.IsStandard →
      Likewise Building.empty Building.empty depth b c → Moves middle b m →
      ∃ m', Moves middle' c m' ∧ Likewise Building.empty Building.empty depth m m')
    {nodes : List Node}
    (moves : Moves (before ++ middle ++ after) Building.empty ⟨nodes, []⟩) :
    ∃ nodes', Moves (before' ++ middle' ++ after') Building.empty ⟨nodes', []⟩ ∧
      List.Forall₂ Node.Matches nodes nodes' := by
  obtain ⟨inside, first, last⟩ := moves.exists_between
  obtain ⟨start, first, block⟩ := first.exists_between
  obtain ⟨start', first', likewise⟩ := (Likewise.refl _ _).moves_of_empty alikeBefore first
  have standard := isStandard_of_moves Document.isStandard_empty first
  obtain ⟨inside', block', likewise⟩ := through _ _ _ _ standard likewise block
  obtain ⟨end', last', likewise⟩ := likewise.moves_of_empty alikeAfter last
  have whole := (first'.append block').append last'
  cases likewise with
  | @root made made' same =>
    exact ⟨made', by simpa [Building.empty] using whole, by simpa [Building.empty] using same⟩

/-- One of the rows gets through just if the other does, and both make alike nodes. -/
theorem Unfolded.both {ts ts' : List Token} (unfolded : Unfolded ts ts')
    (either : GetsThrough ts ∨ GetsThrough ts') :
    ∃ nodes nodes', Moves ts Building.empty ⟨nodes, []⟩ ∧
      Moves ts' Building.empty ⟨nodes', []⟩ ∧ List.Forall₂ Node.Matches nodes nodes' := by
  cases unfolded with
  | intro alikeBefore alikeAfter isTag isTag' balanced alike unfolds =>
    rcases either with ⟨nodes, moves⟩ | ⟨nodes', moves⟩
    · obtain ⟨nodes', moves', same⟩ := moves_around alikeBefore alikeAfter
        (fun depth b c m standard likewise block => by
          obtain ⟨m₁, m', here, there, next⟩ :=
            likewise.block isTag isTag' balanced alike unfolds (.inl ⟨m, block⟩)
          rw [block.unique standard here]
          exact ⟨m', there, next⟩) moves
      exact ⟨nodes, nodes', moves, moves', same⟩
    · obtain ⟨nodes, moves', same⟩ := moves_around (forall₂_swap Token.Alike.symm alikeBefore)
        (forall₂_swap Token.Alike.symm alikeAfter)
        (fun depth b c m standard likewise block => by
          obtain ⟨m', m₁, here, there, next⟩ :=
            likewise.swap.block isTag isTag' balanced alike unfolds (.inr ⟨m, block⟩)
          rw [block.unique standard there]
          exact ⟨m', here, next.swap⟩) moves
      exact ⟨nodes, nodes', moves', moves, forall₂_swap Node.Matches.symm same⟩

end

/-! ### The order of the conditions -/

/-- Behind a condition that does not fail, no other is asked. -/
theorem renderFirst_of_not_passed {s : Setting} {p : Progress}
    {before : List (Condition × List Node)} (stays : ¬∃ q, PassesOver s p before q)
    (rest rest' : List (Condition × List Node)) :
    renderFirst (before ++ rest) s p = renderFirst (before ++ rest') s p := by
  induction before generalizing p with
  | nil => exact absurd ⟨p, .none p⟩ stays
  | cons branch before ih =>
    obtain ⟨c, nodes⟩ := branch
    simp only [List.cons_append, renderFirst_cons_apply]
    rcases run : Render.eval (fun env names => c.evaluate env names) s p with ⟨e | holds, q⟩
    · rfl
    · cases holds with
      | true => rfl
      | false =>
      apply ih
      rintro ⟨r, passes⟩
      exact stays ⟨r, .next nodes run passes⟩

/-! ### Whole templates -/

namespace Template

private theorem exists_parse_iff {engine : Engine} (standard : engine.tags = Tag.standard)
    {name source : String} :
    (∃ t, parse engine name source = .ok t) ↔ GetsThrough (Token.tokenize source) := by
  constructor
  · rintro ⟨t, read⟩
    obtain ⟨d, document, rfl⟩ := parse_eq_ok_iff.mp read
    obtain ⟨nodes, _, moves⟩ := Document.moves_of_parse (standard ▸ document)
    exact ⟨nodes, moves⟩
  · rintro ⟨nodes, moves⟩
    exact ⟨_, parse_eq_ok_iff.mpr ⟨_, standard ▸ Document.parse_of_moves name moves, rfl⟩⟩

/-- Each `elsif` is an `else` with a block of its own. Only a deadline may tell them apart, if it
passes before the one render ends or the other. -/
theorem parse_unfolded {engine : Engine} (standard : engine.tags = Tag.standard) (name : String)
    {source source' : String}
    (unfolded : Unfolded (Token.tokenize source) (Token.tokenize source')) :
    ((∃ t, parse engine name source = .ok t) ↔ ∃ t', parse engine name source' = .ok t') ∧
    (∀ t t', parse engine name source = .ok t → parse engine name source' = .ok t' →
      (∀ s s' p, s.timeless = s'.timeless → s.isLate p = s'.isLate p →
        SameUnlessStopped s s' p (renderAll t.document.nodes) (renderAll t'.document.nodes)) ∧
      ∀ isolated data o clock clock' store heap,
        (o.passed clock).any (fun passed => passed 0) =
          (o.passed clock').any (fun passed => passed 0) →
        let one : Template := { t with isolated }
        let other : Template := { t' with isolated }
        one.StoppedLate data o clock store heap ∨ other.StoppedLate data o clock' store heap ∨
          one.render data o clock store heap = other.render data o clock' store heap) ∧
    (∀ s p (before : List (Condition × List Node)),
      (∀ q, PassesOver s p before q →
        ∀ rest, renderFirst (before ++ rest) s p = renderFirst rest s q) ∧
      ((¬∃ q, PassesOver s p before q) →
        ∀ rest rest', renderFirst (before ++ rest) s p = renderFirst (before ++ rest') s p)) := by
  refine ⟨?_, fun t t' read read' => ?_, fun s p before => ⟨fun q passes => ?_, fun stays => ?_⟩⟩
  · rw [exists_parse_iff standard, exists_parse_iff standard]
    constructor
    · intro one
      obtain ⟨_, nodes', _, moves', _⟩ := unfolded.both (.inl one)
      exact ⟨nodes', moves'⟩
    · intro one
      obtain ⟨nodes, _, moves, _⟩ := unfolded.both (.inr one)
      exact ⟨nodes, moves⟩
  · obtain ⟨d, document, rfl⟩ := parse_eq_ok_iff.mp read
    obtain ⟨d', document', rfl⟩ := parse_eq_ok_iff.mp read'
    obtain ⟨nodes, written, moves⟩ := Document.moves_of_parse (standard ▸ document)
    obtain ⟨nodes', written', moves'⟩ := Document.moves_of_parse (standard ▸ document')
    obtain ⟨made, made', here, there, matching⟩ := unfolded.both (.inl ⟨nodes, moves⟩)
    cases here.unique Document.isStandard_empty moves
    cases there.unique Document.isStandard_empty moves'
    have matching : List.Forall₂ Node.Matches d.nodes d'.nodes := by
      rw [written, written']
      exact List.rel_reverse matching
    have alike (s s' : Setting) (p : Progress) (same : s.timeless = s'.timeless)
        (first : s.isLate p = s'.isLate p) :
        SameUnlessStopped s s' p (renderAll d.nodes) (renderAll d'.nodes) :=
      renderAll_same_unless_stopped (Document.isStandard_of_parse (standard ▸ document))
        (Document.isStandard_of_parse (standard ▸ document'))
        (by rw [← List.length_eq_zero_iff, matching.length_eq, List.length_eq_zero_iff])
        (fun s timeless => renderAll_eq_of_matches timeless matching) same first
    refine ⟨alike, fun isolated data o clock clock' store heap first => ?_⟩
    intro one other
    have engine : one.engine = other.engine := rfl
    exact render_same_unless_stopped engine rfl clock clock' store alike first
  · exact passes.renderFirst_append
  · exact renderFirst_of_not_passed stays

/-! ### A chain of two conditions -/

/-- A tag without trim marks, as it is scanned. -/
def tagAt (offset : Nat) (content : String) : Token :=
  ⟨.tag, content, "\x7b%" ++ content ++ "%\x7d", ⟨offset, content.utf8ByteSize + 4⟩, true, false,
    false⟩

/-- A text of one character, as it is scanned. -/
def textAt (offset : Nat) (content : String) : Token :=
  ⟨.text, content, content, ⟨offset, 1⟩, true, false, false⟩

/-- The condition `a` with the text `1`, and `b < 1` with the text `2`. -/
def firstBranch : Condition × List Node :=
  (.last (.truthy ⟨.lookup "a" [], []⟩), [.text ⟨10, 1⟩ "1"])

def secondBranch (offset : Nat) : Condition × List Node :=
  (.last (.compare ⟨.lookup "b" [], []⟩ .lt ⟨.literal (.int 1), []⟩), [.text ⟨offset, 1⟩ "2"])

def chain : Template where
  engine := ⟨Tag.standard, bareEngine.env⟩
  name := "t"
  source := "{% if a %}1{% elsif b < 1 %}2{% endif %}3"
  document :=
    ⟨[.tag ⟨0, 10⟩ "if" "a" (.branches [firstBranch, secondBranch 28]), .text ⟨40, 1⟩ "3"], ⟨0, 41⟩⟩
  isolated := false

def nested : Template where
  engine := chain.engine
  name := "t"
  source := "{% if a %}1{% else %}{% if b < 1 %}2{% endif %}{% endif %}3"
  document :=
    ⟨[.tag ⟨0, 10⟩ "if" "a" (.branches [firstBranch,
        (.last .always, [.tag ⟨21, 14⟩ "if" "b < 1" (.branches [secondBranch 35])])]),
      .text ⟨58, 1⟩ "3"], ⟨0, 59⟩⟩
  isolated := false

private theorem tokenize_chain : Token.tokenize chain.source =
    [] ++ tagAt 0 " if a " :: ([textAt 10 "1"] ++
      (tagAt 11 " elsif b < 1 " :: ([textAt 28 "2"] ++ [tagAt 29 " endif "]))) ++
    [textAt 40 "3"] := by
  decide +kernel

private theorem tokenize_nested : Token.tokenize nested.source =
    [] ++ tagAt 0 " if a " :: ([textAt 10 "1"] ++
      (tagAt 11 " else " :: (tagAt 21 " if b < 1 " :: ([textAt 35 "2"] ++
        [tagAt 36 " endif "]) ++ [tagAt 47 " endif "]))) ++ [textAt 58 "3"] := by
  decide +kernel

private theorem parse_chain : parse chain.engine "t" chain.source = .ok chain := by
  unfold parse Document.parse
  rw [tokenize_chain]
  rfl

private theorem parse_nested : parse chain.engine "t" nested.source = .ok nested := by
  unfold parse Document.parse
  rw [tokenize_nested]
  rfl

private theorem unfolded_chain :
    Unfolded (Token.tokenize chain.source) (Token.tokenize nested.source) := by
  have isTag (offset : Nat) (content name markup : String)
      (read : Header.ofToken (tagAt offset content) =
        .ok ⟨name, markup, (tagAt offset content).span⟩) :
      (tagAt offset content).IsTag name markup := ⟨rfl, read⟩
  have text (offset offset' : Nat) (content : String) :
      List.Forall₂ Token.Alike [textAt offset content] [textAt offset' content] :=
    .cons ⟨rfl, rfl, rfl⟩ .nil
  have opens := isTag 0 " if a " "if" "a" rfl
  have ends := isTag 29 " endif " "endif" "" rfl
  have ends' := isTag 36 " endif " "endif" "" rfl
  have ends'' := isTag 47 " endif " "endif" "" rfl
  rw [tokenize_chain, tokenize_nested]
  refine .intro .nil (text _ _ _) opens opens (by decide +kernel) (text _ _ _) ?_
  exact .next (.inl rfl) (isTag _ _ "elsif" "b < 1" rfl) (isTag _ _ "else" "" rfl)
    (isTag _ _ "if" "b < 1" rfl) (by decide +kernel) (text _ _ _) (.done ends ends') ends''

/-- The second condition cannot be tested. In the one form its error is recovered from behind the
block, and in the other within it. -/
theorem parse_unfolded_chain :
    let data : Value := .hash [("a", .bool false), ("b", .str "x")]
    let e : Error := .render "comparison of string with int failed"
    (nested.render data Options.plain (.stopped 0) Bindings.empty Heap.new).1 =
      .ok ⟨"Liquid error: comparison of string with int failed3", #[e]⟩ ∧
    (nested.render data { Options.plain with mode := .strict } (.stopped 0) Bindings.empty
      Heap.new).1 = .error e := by
  intro data e
  obtain ⟨_, renders, _⟩ :=
    parse_unfolded (show chain.engine.tags = Tag.standard from rfl) "t" unfolded_chain
  obtain ⟨_, same⟩ := renders chain nested parse_chain parse_nested
  -- Without a deadline nothing is stopped.
  have unstopped {t : Template} {o : Options} (timeless : o.passed (.stopped 0) = none) :
      ¬t.StoppedLate data o (.stopped 0) Bindings.empty Heap.new := by
    rintro ⟨_, passed, given, _⟩
    rw [timeless] at given
    cases given
  have agree (o : Options) (timeless : o.passed (.stopped 0) = none) :
      chain.render data o (.stopped 0) Bindings.empty Heap.new =
        nested.render data o (.stopped 0) Bindings.empty Heap.new :=
    ((same false data o _ _ Bindings.empty Heap.new rfl).resolve_left
      (unstopped timeless)).resolve_left (unstopped timeless)
  rw [← agree Options.plain rfl, ← agree { Options.plain with mode := .strict } rfl]
  decide +kernel

/-- The block in the place of `elsif` is a node of its own, so that one check more is made, and the
deadline passes before the last. -/
theorem nested_runs_late :
    Unfolded (Token.tokenize chain.source) (Token.tokenize nested.source) ∧
    parse chain.engine "t" chain.source = .ok chain ∧
    parse chain.engine "t" nested.source = .ok nested ∧
    let data : Value := .hash [("a", .bool false), ("b", .int 0)]
    let hurried : Options := { Options.plain with timeout := some 4 }
    (chain.render data hurried ticking Bindings.empty Heap.new).1 = .ok ⟨"23", #[]⟩ ∧
    (nested.render data hurried ticking Bindings.empty Heap.new).1 = .error .timeout :=
  ⟨unfolded_chain, parse_chain, parse_nested, by decide +kernel⟩

end Template

end Liquid
