import Liquid.Proofs.Moves
import Liquid.Proofs.PairedRenders
import Liquid.Render.Nodes

/-!
# Impartial tags

The tags of the language are rendered impartially, whatever they are made of. A tag of the host is
code of its own, so for a template it has to be known of every such tag that it is impartial; and
for all templates of an engine, that its readers make no other tags.

## Main results

`renderAll_impartial`: nodes with impartial tags are rendered impartially.

`Document.parse_impartial`: the templates that impartial readers make have impartial tags.

## Proof strategy

The parser takes nodes from open blocks and puts them into tags, and never looks into them. So the
tags in the nodes and blocks stay impartial, token by token.
-/

namespace Liquid

variable (l : Ledger) (base : Nat)

/-! ### Nodes -/

mutual

def Node.Impartial : Node → Prop
  | .text .. => True
  | .output .. => True
  | .tag _ _ _ body => body.Impartial

/-- Nothing is asked of the tags of the language but that the tags inside are impartial. -/
def Tag.Impartial : Tag → Prop
  | .assign .. => True
  | .interrupt _ => True
  | .branches branches => BranchesImpartial branches
  | .tablerow _ nodes => AllImpartial nodes
  | .action run => Render.Impartial l base run
  | .block around nodes =>
    (∀ x, Render.Impartial l base x → Render.Impartial l base (around x)) ∧ AllImpartial nodes

def BranchesImpartial : List (Condition × List Node) → Prop
  | [] => True
  | (_, nodes) :: rest => AllImpartial nodes ∧ BranchesImpartial rest

def AllImpartial : List Node → Prop
  | [] => True
  | n :: rest => n.Impartial ∧ AllImpartial rest

end

variable {l base}

private theorem allImpartial_iff {nodes : List Node} :
    AllImpartial l base nodes ↔ ∀ n ∈ nodes, n.Impartial l base := by
  induction nodes with
  | nil => simp [AllImpartial]
  | cons n rest ih => rw [AllImpartial, ih, List.forall_mem_cons]

private theorem branchesImpartial_iff {branches : List (Condition × List Node)} :
    BranchesImpartial l base branches ↔
      ∀ branch ∈ branches, AllImpartial l base branch.2 := by
  induction branches with
  | nil => simp [BranchesImpartial]
  | cons branch rest ih => rw [BranchesImpartial, ih, List.forall_mem_cons]

theorem AllImpartial.reverse {nodes : List Node} (fair : AllImpartial l base nodes) :
    AllImpartial l base nodes.reverse :=
  allImpartial_iff.mpr fun n member => allImpartial_iff.mp fair n (List.mem_reverse.mp member)

theorem BranchesImpartial.reverse {branches : List (Condition × List Node)}
    (fair : BranchesImpartial l base branches) : BranchesImpartial l base branches.reverse :=
  branchesImpartial_iff.mpr fun branch member =>
    branchesImpartial_iff.mp fair branch (List.mem_reverse.mp member)

open Render

mutual

private theorem node_impartial : (n : Node) → n.Impartial l base → Render.Impartial l base n.render
  | .text _ s, _ => (Impartial.write s).bind fun _ => .pure _
  | .output _ _ v, _ => .output v
  | .tag _ _ _ body, fair => tag_impartial body fair

theorem tag_impartial : (t : Tag) → t.Impartial l base → Render.Impartial l base t.render
  | .assign name v, _ => .assign name v
  | .interrupt _, _ => .pure _
  | .branches branches, fair => (renderFirst_impartial branches fair).stack
  | .tablerow row nodes, fair => row_impartial row (renderAll_impartial nodes fair)
  | .action _, fair => fair
  | .block _ nodes, fair => fair.1 _ (renderAll_impartial nodes fair.2)

private theorem renderFirst_impartial : (branches : List (Condition × List Node)) →
    BranchesImpartial l base branches → Render.Impartial l base (renderFirst branches)
  | [], _ => .pure _
  | (c, nodes) :: rest, fair => by
    unfold renderFirst
    have body := renderAll_impartial nodes fair.1
    have others := renderFirst_impartial rest fair.2
    refine (Impartial.condition c).bind fun holds => ?_
    cases holds with
    | true => exact body
    | false => exact others

theorem renderAll_impartial : (nodes : List Node) →
    AllImpartial l base nodes → Render.Impartial l base (renderAll nodes)
  | [], _ => .pure _
  | n :: rest, fair => by
    unfold renderAll
    have first := node_impartial n fair.1
    have others := renderAll_impartial rest fair.2
    refine Impartial.checkDeadline.bind fun _ => first.recover.bind fun flow => ?_
    cases flow with
    | normal => exact others
    | stop => exact .pure _
    | skip => exact .pure _

end

/-! ### Readers -/

/-- Whatever nodes a block is closed with, it becomes an impartial tag if they are impartial. -/
def ClosesImpartial (l : Ledger) (base : Nat) (close : List Node → Tag) : Prop :=
  ∀ nodes, AllImpartial l base nodes → (close nodes).Impartial l base

def Opening.Impartial (l : Ledger) (base : Nat) : Opening → Prop
  | .leaf tag => tag.Impartial l base
  | .branches _ => True
  | .block _ _ close => ClosesImpartial l base close

def TagReader.Impartial (l : Ledger) (base : Nat) (reader : TagReader) : Prop :=
  ∀ template header opened, reader template header = .ok opened →
    opened.opening.Impartial l base

def BlockKind.Impartial (l : Ledger) (base : Nat) : BlockKind → Prop
  | .branches complete _ => BranchesImpartial l base complete
  | .nested _ _ close => ClosesImpartial l base close

structure OpenBlock.Impartial (l : Ledger) (base : Nat) (block : OpenBlock) : Prop where
  kind : block.kind.Impartial l base
  before : AllImpartial l base block.before

structure Building.Impartial (l : Ledger) (base : Nat) (b : Building) : Prop where
  nodes : AllImpartial l base b.nodes
  blocks : ∀ block ∈ b.blocks, block.Impartial l base

/-- All the readers of an engine. -/
def ImpartialReaders (l : Ledger) (base : Nat) (tags : Bindings TagReader) : Prop :=
  ∀ name reader, tags.get? name = some reader → TagReader.Impartial l base reader

namespace Building

variable {b b' : Building} {template : String} {header : Header}

theorem Impartial.add (fair : b.Impartial l base) {n : Node} (new : n.Impartial l base) :
    (b.add n).Impartial l base := ⟨⟨new, fair.nodes⟩, fair.blocks⟩

theorem Impartial.place (fair : b.Impartial l base) {rule : SiblingRule} {tag : Tag}
    (new : tag.Impartial l base) (run : b.place header rule tag = .ok b') :
    b'.Impartial l base := by
  unfold Building.place at run
  split at run
  next => cases run
  next =>
    cases run
    exact fair.add new

/-- A variable has no tags inside. -/
theorem output_impartial {t : Token} {n : Node} (run : output t = .ok n) : n.Impartial l base := by
  unfold Building.output at run
  split at run
  next => cases run
  next =>
    split at run
    next =>
      cases run
      trivial
    next => cases run

private theorem closed_impartial {kind : BlockKind} (fair : kind.Impartial l base)
    {nodes : List Node}
    (inside : AllImpartial l base nodes) : (closed kind nodes).Impartial l base := by
  cases kind with
  | branches complete condition =>
    have branches : BranchesImpartial l base ((condition, nodes) :: complete) := ⟨inside, fair⟩
    exact branches.reverse
  | nested name delimiter close => exact fair nodes inside

theorem Impartial.openTag (fair : b.Impartial l base) {reader : TagReader}
    (reads : TagReader.Impartial l base reader)
    (run : b.openTag template header reader = .ok b') : b'.Impartial l base := by
  unfold Building.openTag at run
  split at run
  next => cases run
  next opened read =>
    have opening := reads template header opened read
    -- A leaf is added, and a block takes all the nodes before it.
    split at run
    next leaf same =>
      rw [same] at opening
      exact fair.place opening run
    next =>
      cases run
      exact ⟨trivial, List.forall_mem_cons.mpr ⟨⟨trivial, fair.nodes⟩, fair.blocks⟩⟩
    next name delimiter close same =>
      rw [same] at opening
      cases run
      exact ⟨trivial, List.forall_mem_cons.mpr ⟨⟨opening, fair.nodes⟩, fair.blocks⟩⟩

theorem Impartial.unknown (fair : b.Impartial l base) (run : b.unknown header = .ok b') :
    b'.Impartial l base := by
  obtain ⟨nodes, blocks⟩ := b
  cases blocks with
  | nil => cases run
  | cons block outer =>
    obtain ⟨innermost, others⟩ := List.forall_mem_cons.mp fair.blocks
    obtain ⟨kind, before⟩ := innermost
    unfold Building.unknown at run
    simp only at run
    split at run
    next complete condition same =>
      rw [same] at kind
      have branch : BranchesImpartial l base ((condition, nodes.reverse) :: complete) :=
        ⟨fair.nodes.reverse, kind⟩
      have goneOn (next : Condition) : Building.Impartial l base
          ⟨[], { block with kind := .branches ((condition, nodes.reverse) :: complete) next } ::
            outer⟩ :=
        ⟨trivial, List.forall_mem_cons.mpr ⟨⟨branch, before⟩, others⟩⟩
      -- An `else` and every other branch go on in the same way, or there is a fault.
      unfold Building.nextBranch at run
      simp only at run
      split_ifs at run
      · cases run
        exact goneOn _
      · split at run
        next =>
          cases run
          exact goneOn _
        next => cases run
    next => cases run

theorem Impartial.closeBlock {block : OpenBlock} {outer : List OpenBlock}
    (fair : b.Impartial l base) (blocks : b.blocks = block :: outer)
    (run : b.closeBlock block outer = .ok b') : b'.Impartial l base := by
  obtain ⟨innermost, others⟩ := List.forall_mem_cons.mp (blocks ▸ fair.blocks)
  have around : Building.Impartial l base ⟨block.before, outer⟩ := ⟨innermost.before, others⟩
  exact around.place (closed_impartial innermost.kind fair.nodes.reverse) run

variable {tags : Bindings TagReader} (readers : ImpartialReaders l base tags)

include readers

theorem Impartial.otherTag (fair : b.Impartial l base)
    (run : otherTag tags template b header = .ok b') : b'.Impartial l base := by
  have made := ok_of_located run
  split at made
  next reader known => exact fair.openTag (readers header.name reader known) made
  next => exact fair.unknown made

theorem Impartial.tag (fair : b.Impartial l base) (run : tag tags template b header = .ok b') :
    b'.Impartial l base := by
  unfold Building.tag at run
  split at run
  next => exact fair.otherTag readers run
  next block outer blocks =>
    split at run
    next => exact fair.closeBlock blocks (ok_of_located run)
    next => exact fair.otherTag readers run

theorem Impartial.step {t : Token} (fair : b.Impartial l base)
    (run : step tags template b t = .ok b') : b'.Impartial l base := by
  unfold Building.step at run
  -- A text, a variable or a tag.
  split at run
  next =>
    cases run
    split
    next => exact fair
    next => exact fair.add trivial
  next =>
    cases read : located template t.span (output t) with
    | error e =>
      rw [read] at run
      cases run
    | ok n =>
      rw [read] at run
      cases run
      exact fair.add (output_impartial (ok_of_located read))
  next =>
    split at run
    next => exact fair.tag readers run
    next => cases run

theorem Impartial.build {ts : List Token} (fair : b.Impartial l base)
    (run : build tags template b ts = .ok b') : b'.Impartial l base := by
  induction ts generalizing b with
  | nil =>
    cases run
    exact fair
  | cons t rest ih =>
    unfold Building.build at run
    split at run
    next between step => exact ih (fair.step readers step) run
    next => cases run

end Building

namespace Document

variable {tags : Bindings TagReader} {template source : String} {d : Document}

theorem parse_impartial (readers : ImpartialReaders l base tags)
    (run : Document.parse tags template source = .ok d) : AllImpartial l base d.nodes := by
  obtain ⟨b, -, nodes, built⟩ := build_of_parse run
  have begun : Building.empty.Impartial l base := ⟨trivial, fun _ absent => nomatch absent⟩
  rw [nodes]
  exact (begun.build readers built).nodes.reverse

end Document

/-! ### The standard tags -/

namespace Tag

private theorem standardTags_impartial :
    ∀ entry ∈ standardTags, TagReader.Impartial l base entry.2 := by
  simp only [standardTags, List.forall_mem_cons]
  refine ⟨?assign, ?branches, ?tablerow, ?stop, ?skip, by simp⟩
  case assign =>
    intro template header opened read
    unfold readAssign at read
    split at read
    next =>
      cases read
      trivial
    next => cases read
  case branches =>
    intro template header opened read
    unfold readIf at read
    split at read
    next =>
      cases read
      trivial
    next => cases read
  case tablerow =>
    intro template header opened read
    unfold readTableRow at read
    split at read
    next =>
      cases read
      exact fun nodes fair => fair
    next => cases read
  case stop =>
    intro template header opened read
    cases read
    trivial
  case skip =>
    intro template header opened read
    cases read
    trivial

theorem standard_impartial : ImpartialReaders l base Tag.standard := by
  unfold standard Bindings.ofPairs
  exact Bindings.holds_of_get?_overlay (fun _ _ found => nomatch found) standardTags_impartial

end Tag

end Liquid
