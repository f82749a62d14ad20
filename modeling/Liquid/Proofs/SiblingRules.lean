import Liquid.Proofs.FaultPlaces
import Liquid.Sample.Tags
import Mathlib.Data.List.Infix

/-!
# Rules about siblings

A tag may have a rule about the nodes in front of it. These are the nodes of its own list: of the
template, of one branch or of one block, whatever stands around that list, in other branches or
inside of the siblings.

## Main results

* `Document.parse_ruled`: a source that would be parsed if no tag had a rule is at fault just if one
  of the lists of nodes that it then has holds a tag whose rule refuses it, and is at fault at the
  first such tag.
* `Document.parse_onceOnly`: with the tags that may appear once, these are the tags behind another
  one of the same name in the same list.

## Proof strategy

The lists of a template are there all along while it is built: each token adds a node to one of
them, opens a new one, or puts a list that is complete into its block (`Advance`). Only a tag
without a list can be refused, so the tokens that add to the refused nodes are those where the
parser stops (`build_ruled`), in the order of the source.
-/

namespace Liquid

/-! ### The lists of a template -/

mutual

/-- The lists of nodes inside of a node. -/
def Node.lists : Node → List (List Node)
  | .text .. => []
  | .output .. => []
  | .tag _ _ _ body => body.lists

def Tag.lists : Tag → List (List Node)
  | .assign .. => []
  | .interrupt _ => []
  | .branches branches => branchLists branches
  | .tablerow _ nodes => nodes :: listsWithin nodes
  | .action _ => []
  | .block _ nodes => nodes :: listsWithin nodes

def branchLists : List (Condition × List Node) → List (List Node)
  | [] => []
  | (_, nodes) :: rest => nodes :: (listsWithin nodes ++ branchLists rest)

def listsWithin : List Node → List (List Node)
  | [] => []
  | n :: rest => n.lists ++ listsWithin rest

end

/-- The list of the template, and those of its branches and blocks at any depth. -/
def Document.lists (d : Document) : List (List Node) := d.nodes :: listsWithin d.nodes

@[simp] theorem listsWithin_append (nodes others : List Node) :
    listsWithin (nodes ++ others) = listsWithin nodes ++ listsWithin others := by
  induction nodes with
  | nil => rfl
  | cons n rest ih => simp [listsWithin, ih]

@[simp] theorem branchLists_append (branches others : List (Condition × List Node)) :
    branchLists (branches ++ others) = branchLists branches ++ branchLists others := by
  induction branches with
  | nil => rfl
  | cons branch rest ih => simp [branchLists, ih]

private theorem Node.lists_of_no_tag {n : Node} (other : n.tagName? = none) : n.lists = [] := by
  cases n with
  | text => rw [lists]
  | output => rw [lists]
  | tag => cases other

/-! ### Tags without rules -/

/-- Reads the same tag, except that it may stand anywhere. -/
def TagReader.unruled (reader : TagReader) : TagReader := fun template header =>
  match reader template header with
  | .ok tag => .ok { tag with rule := .anywhere }
  | .error fault => .error fault

/-- The tags without their rules. What they parse is well formed apart from the rules. -/
def Bindings.unruled (tags : Bindings TagReader) : Bindings TagReader :=
  ⟨tags.entries.map fun (name, reader) => (name, TagReader.unruled reader)⟩

private theorem Bindings.get?_unruled (tags : Bindings TagReader) (name : String) :
    tags.unruled.get? name = (tags.get? name).map TagReader.unruled := by
  obtain ⟨entries⟩ := tags
  unfold unruled get?
  induction entries with
  | nil => rfl
  | cons entry rest ih =>
    rw [List.map_cons, getFrom?, getFrom?, ih]
    split <;> rfl

/-- Only a tag without a list has a rule, and a block has the one list that it was given. -/
def OpenTag.Orderly (tag : OpenTag) : Prop :=
  match tag.opening with
  | .leaf leaf => leaf.lists = []
  | .branches _ => tag.rule = .anywhere
  | .block _ _ close =>
    tag.rule = .anywhere ∧ ∀ nodes, (close nodes).lists = nodes :: listsWithin nodes

def Bindings.Orderly (tags : Bindings TagReader) : Prop :=
  ∀ name reader, tags.get? name = some reader →
    ∀ template h tag, reader template h = .ok tag → tag.Orderly

/-! ### Refused tags -/

section

variable (tags : Bindings TagReader) (template : String)

/-- The rule of the tag has something against these siblings. -/
def Node.Refused (before : List Node) (message : String) (n : Node) : Prop :=
  ∃ h body reader tag, n = .tag h.span h.name h.markup body ∧ tags.get? h.name = some reader ∧
    reader template h = .ok tag ∧ tag.rule (before.map Node.tagName?) = some message

/-- The list has a tag that may not stand behind the nodes before it. -/
def RefusedAmong (list : List Node) (message : String) (n : Node) : Prop :=
  ∃ before, before ++ [n] <+: list ∧ n.Refused tags template before message

def RefusedIn (lists : List (List Node)) (message : String) (n : Node) : Prop :=
  ∃ list ∈ lists, RefusedAmong tags template list message n

end

section

variable {tags : Bindings TagReader} {template message : String} {h : Header} {tag : OpenTag}
  {reader : TagReader} {before list : List Node} {lists others : List (List Node)} {n u : Node}

private theorem refused_tag_iff {body : Tag} (known : tags.get? h.name = some reader)
    (opens : reader template h = .ok tag) :
    (Node.tag h.span h.name h.markup body).Refused tags template before message ↔
      tag.rule (before.map Node.tagName?) = some message := by
  constructor
  · rintro ⟨⟨name, markup, span⟩, _, reader', tag', same, known', opens', refuses⟩
    cases h
    cases same
    cases known.symm.trans known'
    cases opens.symm.trans opens'
    exact refuses
  · exact fun refuses => ⟨h, body, reader, tag, rfl, known, opens, refuses⟩

private theorem not_refused_of_no_tag (other : n.tagName? = none) :
    ¬ n.Refused tags template before message := by
  rintro ⟨h, body, reader, tag, rfl, -⟩
  cases other

@[simp] theorem not_refusedAmong_nil : ¬ RefusedAmong tags template [] message u := by
  rintro ⟨before, begins, -⟩
  simpa using List.prefix_nil.mp begins

@[simp] theorem refusedAmong_concat : RefusedAmong tags template (list ++ [n]) message u ↔
    u = n ∧ n.Refused tags template list message ∨ RefusedAmong tags template list message u := by
  simp only [RefusedAmong, List.prefix_concat_iff, or_and_right, exists_or]
  refine or_congr_left ⟨?_, ?_⟩
  · rintro ⟨before, same, refused⟩
    obtain ⟨rfl, last⟩ := List.append_inj' same rfl
    cases last
    exact ⟨rfl, refused⟩
  · rintro ⟨rfl, refused⟩
    exact ⟨list, rfl, refused⟩

@[simp] theorem not_refusedIn_nil : ¬ RefusedIn tags template [] message u := by
  simp [RefusedIn]

@[simp] theorem refusedIn_cons : RefusedIn tags template (list :: lists) message u ↔
    RefusedAmong tags template list message u ∨ RefusedIn tags template lists message u := by
  simp [RefusedIn]

@[simp] theorem refusedIn_append : RefusedIn tags template (lists ++ others) message u ↔
    RefusedIn tags template lists message u ∨ RefusedIn tags template others message u := by
  simp only [RefusedIn, List.mem_append, or_and_right, exists_or]

end

/-! ### Lists of a template that is being built -/

/-- The lists of the branches that are complete. -/
def BlockKind.lists : BlockKind → List (List Node)
  | .branches complete _ => branchLists complete.reverse
  | .nested .. => []

def OpenBlock.lists (block : OpenBlock) : List (List Node) :=
  block.before.reverse :: (listsWithin block.before.reverse ++ block.kind.lists)

def Building.lists (b : Building) : List (List Node) :=
  b.nodes.reverse :: (listsWithin b.nodes.reverse ++ b.blocks.flatMap OpenBlock.lists)

/-- The block becomes a tag that is not refused and has the lists of the block. -/
structure OpenBlock.Kept (tags : Bindings TagReader) (template : String) (block : OpenBlock) :
    Prop where
  welcome : ∀ before message body,
    ¬ (Node.tag block.header.span block.header.name block.header.markup body).Refused
      tags template before message
  keeps : ∀ nodes,
    (Building.closed block.kind nodes).lists = block.kind.lists ++ nodes :: listsWithin nodes

namespace Building

section

variable (tags : Bindings TagReader) (template : String)

/-- What a token does to the nodes and blocks if no tag has a rule, and what the rule of its tag has
against that. -/
inductive Advance (t : Token) : Building → Building → Option String → Prop where
  | blank {b : Building} : Advance t b b none
  | plain {b : Building} {n : Node} : n.tagName? = none → Advance t b (b.add n) none
  | leaf {b : Building} {h : Header} {reader : TagReader} {leaf : Tag} {rule : SiblingRule} :
      h.span = t.span → leaf.lists = [] → tags.get? h.name = some reader →
      reader template h = .ok ⟨.leaf leaf, rule⟩ →
      Advance t b (b.add (.tag h.span h.name h.markup leaf))
        (rule (b.nodes.reverse.map Node.tagName?))
  | opened {b : Building} {block : OpenBlock} : block.Kept tags template →
      block.before = b.nodes → block.kind.lists = [] → Advance t b ⟨[], block :: b.blocks⟩ none
  | next {nodes before : List Node} {h : Header} {rule : SiblingRule}
      {complete : List (Condition × List Node)} {c c' : Condition} {outer : List OpenBlock} :
      Advance t ⟨nodes, ⟨h, rule, .branches complete c, before⟩ :: outer⟩
        ⟨[], ⟨h, rule, .branches ((c, nodes.reverse) :: complete) c', before⟩ :: outer⟩ none
  | closed {nodes : List Node} {block : OpenBlock} {outer : List OpenBlock} :
      Advance t ⟨nodes, block :: outer⟩
        (add ⟨block.before, outer⟩ (.tag block.header.span block.header.name block.header.markup
          (closed block.kind nodes.reverse))) none

end

variable {tags : Bindings TagReader} {template message : String} {t : Token} {b b' : Building}
  {objection : Option String}

/-! ### From the step to what it does -/

/-- A step with the rules: it is what it would be without them, unless a rule objects. -/
def ruled (template : String) (t : Token) (b' : Building) :
    Option String → Except SyntaxError Building
  | none => .ok b'
  | some message => .error ⟨.rule message, template, t.span⟩

private theorem eq_add_of_place {h : Header} {rule : SiblingRule} {tag : Tag}
    (run : b.place h rule tag = .ok b') : b' = b.add (.tag h.span h.name h.markup tag) := by
  unfold place at run
  split at run
  next => cases run
  next =>
    cases run
    rfl

private theorem tagName?_of_output {n : Node} (made : output t = .ok n) : n.tagName? = none := by
  unfold output at made
  split at made
  next => cases made
  next =>
    split at made
    next =>
      cases made
      rfl
    next => cases made

private theorem lists_closed_branches (complete : List (Condition × List Node)) (c : Condition)
    (nodes : List Node) : (closed (.branches complete c) nodes).lists =
      (BlockKind.branches complete c).lists ++ nodes :: listsWithin nodes := by
  simp [closed, Tag.lists, BlockKind.lists, branchLists]

private theorem kept_of_orderly {h : Header} {reader : TagReader} {tag : OpenTag} {kind : BlockKind}
    {before : List Node} (known : tags.get? h.name = some reader)
    (opens : reader template h = .ok tag) (free : tag.rule = .anywhere)
    (keeps : ∀ nodes, (closed kind nodes).lists = kind.lists ++ nodes :: listsWithin nodes) :
    OpenBlock.Kept tags template ⟨h, .anywhere, kind, before⟩ where
  welcome before message body refused := by
    rw [refused_tag_iff known opens, free] at refused
    cases refused
  keeps := keeps

private theorem advance_of_openTag {h : Header} {reader : TagReader} (orderly : tags.Orderly)
    (place : h.span = t.span) (known : tags.get? h.name = some reader)
    (run : openTag b template h reader.unruled = .ok b') :
    ∃ objection, Advance tags template t b b' objection ∧
      located template t.span (openTag b template h reader) = ruled template t b' objection := by
  cases opens : reader template h with
  | error fault => simp [openTag, TagReader.unruled, opens] at run
  | ok tag =>
    have order := orderly h.name reader known template h tag opens
    obtain ⟨opening, rule⟩ := tag
    -- A block is opened alike with and without its rule, since it has none.
    simp only [openTag, TagReader.unruled, opens] at run ⊢
    cases opening with
    | leaf leaf =>
      obtain rfl := eq_add_of_place run
      refine ⟨_, .leaf place order known opens, ?_⟩
      simp only [Building.place]
      cases rule (b.nodes.reverse.map Node.tagName?) <;> rfl
    | branches condition =>
      obtain rfl : rule = .anywhere := order
      cases run
      exact ⟨none, .opened (kept_of_orderly known opens rfl (lists_closed_branches [] condition))
        rfl rfl, rfl⟩
    | block name delimiter close =>
      obtain ⟨rfl, keeps⟩ := order
      cases run
      exact ⟨none, .opened (kept_of_orderly known opens rfl keeps) rfl rfl, rfl⟩

private theorem advance_of_unknown {h : Header} (run : unknown b h = .ok b') :
    Advance tags template t b b' none := by
  obtain ⟨nodes, blocks⟩ := b
  unfold unknown at run
  split at run
  next => cases run
  next block outer same =>
    obtain ⟨header, rule, kind, before⟩ := block
    cases kind with
    | nested => cases run
    | branches complete c =>
      cases same
      simp only [nextBranch] at run
      split_ifs at run
      · cases run
        exact .next
      · split at run
        next =>
          cases run
          exact .next
        next => cases run

private theorem advance_of_otherTag {h : Header} (orderly : tags.Orderly) (place : h.span = t.span)
    (run : otherTag tags.unruled template b h = .ok b') :
    ∃ objection, Advance tags template t b b' objection ∧
      otherTag tags template b h = ruled template t b' objection := by
  have made := ok_of_located run
  unfold otherTag
  rw [Bindings.get?_unruled] at made
  rw [place]
  cases known : tags.get? h.name with
  | some reader =>
    rw [known] at made
    exact advance_of_openTag orderly place known made
  | none =>
    rw [known] at made
    exact ⟨none, advance_of_unknown made, congrArg (located template t.span) made⟩

private theorem advance_of_tag {h : Header} (orderly : tags.Orderly) (place : h.span = t.span)
    (run : tag tags.unruled template b h = .ok b') :
    ∃ objection, Advance tags template t b b' objection ∧
      tag tags template b h = ruled template t b' objection := by
  obtain ⟨nodes, blocks⟩ := b
  cases blocks with
  | nil => exact advance_of_otherTag orderly place run
  | cons block outer =>
    unfold tag at run ⊢
    simp only at run ⊢
    split
    next ends =>
      -- The rule of the block is asked in both runs, and the one without rules got through.
      rw [if_pos ends] at run
      obtain rfl := eq_add_of_place (ok_of_located run)
      exact ⟨none, .closed, run⟩
    next other =>
      rw [if_neg other] at run
      exact advance_of_otherTag orderly place run

private theorem advance_of_step (orderly : tags.Orderly)
    (run : step tags.unruled template b t = .ok b') :
    ∃ objection, Advance tags template t b b' objection ∧
      step tags template b t = ruled template t b' objection := by
  unfold step at run ⊢
  split at run
  next =>
    cases run
    refine ⟨none, ?_, rfl⟩
    split
    next => exact .blank
    next => exact .plain rfl
  next =>
    refine ⟨none, ?_, run⟩
    cases made : output t with
    | error fault => simp [made, located, Except.map] at run
    | ok n =>
      simp only [made, located, Except.map, Except.ok.injEq] at run
      subst run
      exact .plain (tagName?_of_output made)
  next =>
    split at run
    next h read =>
      exact advance_of_tag orderly (Header.span_of_ofToken (ok_of_located read)) run
    next => cases run

/-! ### What a token adds to the refused tags -/

theorem refusedIn_add {n u : Node} : RefusedIn tags template (b.add n).lists message u ↔
    RefusedIn tags template b.lists message u ∨
      u = n ∧ n.Refused tags template b.nodes.reverse message ∨
      RefusedIn tags template n.lists message u := by
  simp only [Building.lists, add, List.reverse_cons, listsWithin_append, listsWithin,
    List.append_nil, refusedIn_cons, refusedAmong_concat, refusedIn_append]
  tauto

private theorem kept_of_advance (advance : Advance tags template t b b' objection)
    (kept : ∀ block ∈ b.blocks, block.Kept tags template) :
    ∀ block ∈ b'.blocks, block.Kept tags template := by
  cases advance with
  | blank => exact kept
  | plain => exact kept
  | leaf => exact kept
  | opened opens => exact List.forall_mem_cons.mpr ⟨opens, kept⟩
  | next =>
    obtain ⟨inner, outer⟩ := List.forall_mem_cons.mp kept
    exact List.forall_mem_cons.mpr ⟨⟨inner.welcome, lists_closed_branches _ _⟩, outer⟩
  | closed => exact (List.forall_mem_cons.mp kept).2

/-- The refused tags stay the same, except that the one that was just placed may be among them. -/
theorem refusedIn_of_advance (advance : Advance tags template t b b' objection)
    (kept : ∀ block ∈ b.blocks, block.Kept tags template) {u : Node} :
    RefusedIn tags template b'.lists message u ↔ RefusedIn tags template b.lists message u ∨
      objection = some message ∧ b'.nodes.head? = some u := by
  cases advance with
  | blank => simp
  | plain other =>
    rw [refusedIn_add, Node.lists_of_no_tag other]
    simp [not_refused_of_no_tag other]
  | leaf _ bare known opens =>
    rw [refusedIn_add, Node.lists, bare, refused_tag_iff known opens]
    simp [add, and_comm, eq_comm]
  | opened _ before complete =>
    simp [Building.lists, OpenBlock.lists, before, complete, listsWithin]
  | next =>
    simp only [lists, OpenBlock.lists, BlockKind.lists, List.reverse_nil, listsWithin,
      List.flatMap_cons, List.reverse_cons, branchLists_append, branchLists, List.append_nil,
      refusedIn_cons, refusedIn_append, not_refusedIn_nil, not_refusedAmong_nil, reduceCtorEq,
      false_and, false_or, or_false]
    -- The same lists in another order.
    exact Iff.of_eq (by ac_rfl)
  | closed =>
    obtain ⟨inner, -⟩ := List.forall_mem_cons.mp kept
    rw [refusedIn_add, Node.lists, inner.keeps]
    simp only [lists, List.flatMap_cons, OpenBlock.lists, inner.welcome, refusedIn_cons,
      refusedIn_append, reduceCtorEq, and_false, false_and, false_or, or_false]
    exact Iff.of_eq (by ac_rfl)

private theorem span_of_advance (advance : Advance tags template t b b' objection)
    (objects : objection = some message) : ∃ n, b'.nodes.head? = some n ∧ n.span = t.span := by
  cases advance with
  | leaf place => exact ⟨_, rfl, place⟩
  | _ => cases objects

/-! ### The first refused tag -/

/-- What was refused is refused further on, and what is new stands at the places of the tokens. -/
theorem refusedIn_of_build (orderly : tags.Orderly) {ts : List Token}
    (kept : ∀ block ∈ b.blocks, block.Kept tags template)
    (run : build tags.unruled template b ts = .ok b') {u : Node} :
    (RefusedIn tags template b.lists message u → RefusedIn tags template b'.lists message u) ∧
      (RefusedIn tags template b'.lists message u →
        RefusedIn tags template b.lists message u ∨ ∃ t ∈ ts, u.span = t.span) := by
  induction ts generalizing b with
  | nil =>
    cases run
    exact ⟨id, .inl⟩
  | cons t rest ih =>
    rw [build] at run
    split at run
    next between first =>
      obtain ⟨objection, advance, -⟩ := advance_of_step orderly first
      have grown : RefusedIn tags template between.lists message u ↔ _ :=
        refusedIn_of_advance advance kept
      obtain ⟨old, new⟩ := ih (kept_of_advance advance kept) run
      refine ⟨fun refused => old (grown.mpr (.inl refused)), fun refused => ?_⟩
      rcases new refused with refused | ⟨later, member, place⟩
      · rcases grown.mp refused with refused | ⟨objects, last⟩
        · exact .inl refused
        · obtain ⟨n, placed, span⟩ := span_of_advance advance objects
          cases placed.symm.trans last
          exact .inr ⟨t, List.mem_cons_self, span⟩
      · exact .inr ⟨later, List.mem_cons_of_mem _ member, place⟩
    next => cases run

/-- With the rules, tokens are taken as without them as long as they add no refused tag, and the
first one that does is at fault. -/
theorem build_ruled (orderly : tags.Orderly) {ts : List Token}
    (ascending : ts.Pairwise fun t u => t.span.offset < u.span.offset)
    (kept : ∀ block ∈ b.blocks, block.Kept tags template)
    (run : build tags.unruled template b ts = .ok b') :
    (build tags template b ts = .ok b' ∧ ∀ message u,
      RefusedIn tags template b'.lists message u → RefusedIn tags template b.lists message u) ∨
    ∃ message n, build tags template b ts = .error ⟨.rule message, template, n.span⟩ ∧
      RefusedIn tags template b'.lists message n ∧
      ∀ other u, RefusedIn tags template b'.lists other u →
        RefusedIn tags template b.lists other u ∨ n.span.offset ≤ u.span.offset := by
  -- The induction goes up to the first token with an objection; from there on the run with the
  -- rules has ended, and the one without them can only add what stands further behind.
  induction ts generalizing b with
  | nil =>
    cases run
    exact .inl ⟨rfl, fun _ _ => id⟩
  | cons t rest ih =>
    obtain ⟨first, later⟩ := List.pairwise_cons.mp ascending
    rw [build] at run
    split at run
    next between without =>
      obtain ⟨objection, advance, with'⟩ := advance_of_step orderly without
      have keeps := kept_of_advance advance kept
      cases objection with
      | none =>
        have same message u : RefusedIn tags template between.lists message u ↔
            RefusedIn tags template b.lists message u := by
          simpa using refusedIn_of_advance advance kept
        simp only [build, with', ruled, ← same]
        exact ih later keeps run
      | some message =>
        obtain ⟨n, placed, span⟩ := span_of_advance advance rfl
        refine .inr ⟨message, n, by rw [build, with', ruled, span], ?_, fun other u refused => ?_⟩
        · exact (refusedIn_of_build orderly keeps run).1
            ((refusedIn_of_advance advance kept).mpr (.inr ⟨rfl, placed⟩))
        · rcases (refusedIn_of_build orderly keeps run).2 refused with refused | ⟨u', member, place⟩
          · rcases (refusedIn_of_advance advance kept).mp refused with refused | ⟨-, last⟩
            · exact .inl refused
            · cases placed.symm.trans last
              exact .inr (Nat.le_refl _)
          · rw [place, span]
            exact .inr (Nat.le_of_lt (first u' member))
    next => cases run

end Building

/-- A source that would be parsed if no tag had a rule is parsed to the same unless one of its lists
has a tag that is refused there, and is at fault at the first of these tags. -/
theorem Document.parse_ruled {tags : Bindings TagReader} {template source : String} {d : Document}
    (orderly : tags.Orderly) (formed : parse tags.unruled template source = .ok d) :
    (parse tags template source = .ok d ∧
      ∀ message n, ¬ RefusedIn tags template d.lists message n) ∨
    ∃ message n, parse tags template source = .error ⟨.rule message, template, n.span⟩ ∧
      RefusedIn tags template d.lists message n ∧
      ∀ other u, RefusedIn tags template d.lists other u → n.span.offset ≤ u.span.offset := by
  obtain ⟨b, closed, nodes, run⟩ := build_of_parse formed
  have lists : b.lists = d.lists := by simp [Building.lists, lists, closed, nodes]
  have start message u : ¬ RefusedIn tags template Building.empty.lists message u := by
    simp [Building.lists, Building.empty, listsWithin]
  rcases Building.build_ruled orderly (Token.ascending_tokenize source) (by simp [Building.empty])
    run with ⟨same, none⟩ | ⟨message, n, failed, refused, first⟩
  · refine .inl ⟨?_, fun message n refused => start message n (none message n (lists ▸ refused))⟩
    rw [← formed]
    unfold parse
    rw [same, run]
  · rw [lists] at refused first
    exact .inr ⟨message, n, parse_eq_error_iff.mpr (.inl failed), refused, fun other u refused =>
      (first other u refused).resolve_left (start other u)⟩

/-! ### Tags that may appear once -/

namespace Sample

/-- The readers of the standard tags, of a tag that may appear once and of two kinds of blocks. -/
def siblingReaders : List TagReader := Tag.standardTags.map (·.2) ++ [once, shouting, brackets]

/-- The list has a tag `once` of this name that is not the first one of its name. -/
def Again (tags : Bindings TagReader) (list : List Node) (name : String) (n : Node) : Prop :=
  tags.get? name = some once ∧ n.tagName? = some name ∧
    ∃ before, before ++ [n] <+: list ∧ ∃ earlier ∈ before, earlier.tagName? = some name

variable {tags : Bindings TagReader} {template message : String} {h : Header} {tag : OpenTag}
  {reader : TagReader} {list : List Node} {n : Node}

private theorem orderly_of_siblingReaders (member : reader ∈ siblingReaders)
    (opens : reader template h = .ok tag) :
    tag.Orderly ∧ (reader = once ∨ tag.rule = .anywhere) := by
  simp only [siblingReaders, Tag.standardTags, List.map_cons, List.map_nil, List.cons_append,
    List.nil_append, List.mem_cons, List.not_mem_nil, or_false] at member
  rcases member with rfl | rfl | rfl | rfl | rfl | rfl | rfl | rfl
  · unfold Tag.readAssign at opens
    split at opens <;> cases opens
    exact ⟨rfl, .inr rfl⟩
  · unfold Tag.readIf at opens
    split at opens <;> cases opens
    exact ⟨rfl, .inr rfl⟩
  · unfold Tag.readTableRow at opens
    split at opens <;> cases opens
    exact ⟨⟨rfl, fun _ => rfl⟩, .inr rfl⟩
  · cases opens
    exact ⟨rfl, .inr rfl⟩
  · cases opens
    exact ⟨rfl, .inr rfl⟩
  · cases opens
    exact ⟨rfl, .inl rfl⟩
  · cases opens
    exact ⟨⟨rfl, fun _ => rfl⟩, .inr rfl⟩
  · cases opens
    exact ⟨⟨rfl, fun _ => rfl⟩, .inr rfl⟩

private theorem onceOnly_eq_some_iff {name : String} {before : List (Option String)} :
    onceOnly name before = some message ↔
      some name ∈ before ∧ message = s!"'{name}' may only appear once" := by
  unfold onceOnly
  split
  next found => simp [List.contains_iff_mem.mp found, eq_comm]
  next other => exact iff_of_false nofun fun found => other (List.contains_iff_mem.mpr found.1)

/-- Among these tags, those are refused that may appear once and do so again. -/
theorem refusedAmong_iff
    (known : ∀ name reader, tags.get? name = some reader → reader ∈ siblingReaders) :
    RefusedAmong tags template list message n ↔
      ∃ name, Again tags list name n ∧ message = s!"'{name}' may only appear once" := by
  constructor
  · rintro ⟨before, begins, h, body, reader, tag, rfl, found, opens, refuses⟩
    rcases (orderly_of_siblingReaders (known _ reader found) opens).2 with rfl | free
    · cases opens
      obtain ⟨earlier, rfl⟩ := onceOnly_eq_some_iff.mp refuses
      exact ⟨h.name, ⟨found, rfl, before, begins, List.mem_map.mp earlier⟩, rfl⟩
    · rw [free] at refuses
      cases refuses
  · rintro ⟨name, ⟨found, named, before, begins, earlier⟩, rfl⟩
    cases n with
    | tag span name' markup body =>
      cases named
      exact ⟨before, begins, ⟨name, markup, span⟩, body, once, _, rfl, found, rfl,
        onceOnly_eq_some_iff.mpr ⟨List.mem_map.mpr earlier, rfl⟩⟩
    | text => cases named
    | output => cases named

end Sample

namespace Document

open Sample

variable {tags : Bindings TagReader} {template source : String} {d : Document}

/-- A source that is well formed apart from that fails just if one of its lists, that of the
template or of a branch or a block, has two tags `once` of the same name. The fault then lies at
the first one that comes second in its list. -/
theorem parse_onceOnly
    (known : ∀ name reader, tags.get? name = some reader → reader ∈ siblingReaders)
    (formed : parse tags.unruled template source = .ok d) :
    ((∃ e, parse tags template source = .error e) ↔
      ∃ list ∈ d.lists, ∃ name n, Again tags list name n) ∧
    (∀ e, parse tags template source = .error e → ∃ list ∈ d.lists, ∃ name n,
      Again tags list name n ∧
      (∀ other ∈ d.lists, ∀ name' u, Again tags other name' u →
        n.span.offset ≤ u.span.offset) ∧
      e = ⟨.rule s!"'{name}' may only appear once", template, n.span⟩) ∧
    ∀ d', parse tags template source = .ok d' → d' = d := by
  have orderly : tags.Orderly := fun name reader found template h tag opens =>
    (orderly_of_siblingReaders (known name reader found) opens).1
  have refused_of_again {list name n} (member : list ∈ d.lists) (again : Again tags list name n) :
      RefusedIn tags template d.lists s!"'{name}' may only appear once" n :=
    ⟨list, member, (refusedAmong_iff known).mpr ⟨name, again, rfl⟩⟩
  rcases parse_ruled orderly formed with ⟨same, none⟩ | ⟨message, n, failed, refused, first⟩
  · simp only [same, reduceCtorEq, exists_false, false_iff, false_implies, implies_true, true_and,
      Except.ok.injEq]
    refine ⟨?_, fun d' same => same.symm⟩
    rintro ⟨list, member, name, n, again⟩
    exact none _ n (refused_of_again member again)
  · obtain ⟨list, member, refused⟩ := refused
    obtain ⟨name, again, rfl⟩ := (refusedAmong_iff known).mp refused
    refine ⟨⟨fun _ => ⟨list, member, name, n, again⟩, fun _ => ⟨_, failed⟩⟩, fun e failed' => ?_,
      fun d' parsed => nomatch failed.symm.trans parsed⟩
    cases failed.symm.trans failed'
    exact ⟨list, member, name, n, again, fun other member name' u again =>
      first _ u (refused_of_again member again), rfl⟩

/-- The standard tags with `once`, `shout` and `block` under their own names. -/
def onceTags : Bindings TagReader :=
  Tag.standard.overlay ⟨[("once", once), ("shout", shouting), ("block", brackets)]⟩

/-- Of five tags `once`, three are alone in their lists. -/
def onceNested : String :=
  "{% once %}{% if x %}{% shout %}{% once %}{% done %}{% once %}{% else %}{% once %}{% once %}" ++
    "{% endif %}"

private theorem known_onceTags : ∀ name reader, onceTags.get? name = some reader →
    reader ∈ siblingReaders := by
  refine Bindings.holds_of_get?_overlay
    (Bindings.holds_of_get?_overlay nofun fun entry member => ?_) fun entry member => ?_
  · exact List.mem_append_left _ (List.mem_map_of_mem member)
  · refine List.mem_append_right _ ?_
    simpa using List.mem_map_of_mem (f := fun entry : String × TagReader => entry.2) member

/-- Only the last one stands behind another one in its list. -/
theorem parse_onceOnly_nested : ∃ d, parse onceTags.unruled "page" onceNested = .ok d ∧
    parse onceTags "page" onceNested =
      .error ⟨.rule "'once' may only appear once", "page", ⟨81, 10⟩⟩ ∧
    ∃ list ∈ d.lists, ∃ name n, Again onceTags list name n ∧ n.span = ⟨81, 10⟩ := by
  have wellFormed : (parse onceTags.unruled "page" onceNested).isOk = true := by decide +kernel
  have told : (parse onceTags "page" onceNested).map (fun _ => ()) =
      .error ⟨.rule "'once' may only appear once", "page", ⟨81, 10⟩⟩ := by decide +kernel
  cases formed : parse onceTags.unruled "page" onceNested with
  | error _ =>
    rw [formed] at wellFormed
    cases wellFormed
  | ok d =>
    cases failed : parse onceTags "page" onceNested with
    | ok _ =>
      rw [failed] at told
      cases told
    | error e =>
      rw [failed] at told
      cases told
      obtain ⟨list, member, name, n, again, -, same⟩ :=
        (parse_onceOnly known_onceTags formed).2.1 _ failed
      exact ⟨d, rfl, rfl, list, member, name, n, again, (congrArg SyntaxError.span same).symm⟩

end Document

end Liquid
