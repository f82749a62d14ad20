import Liquid.Condition.Parse
import Liquid.Document.Node
import Liquid.Token.Trim

/-!
# Blocks

The nodes of a template are put together token by token. The state is the list being filled and
the blocks around it, each with the list that it will go into, so an end tag closes the innermost
open block and nothing else. What a token does depends only on the tokens before it: a source and
its continuation are at fault at the same place.
-/

namespace Liquid

structure Header where
  name : String
  markup : String
  span : Span
deriving Repr, DecidableEq

/-- May a tag stand behind these nodes of its list? The names are those of the tags among them. -/
abbrev SiblingRule := (before : List (Option String)) → Option String

def SiblingRule.anywhere : SiblingRule := fun _ => none

/-- What a tag turns out to be when it opens. -/
inductive Opening where
  | leaf (tag : Tag)
  /-- Branches, of which the first has this condition. -/
  | branches (condition : Condition)
  /-- A block of this name with its end tag, and what it becomes with its nodes. -/
  | block (name delimiter : String) (close : List Node → Tag)

structure OpenTag where
  opening : Opening
  rule : SiblingRule

/-- Reads the markup of a tag in the template of the given name. -/
abbrev TagReader := (template : String) → Header → Except Fault OpenTag

inductive BlockKind where
  /-- The branches that are complete, last first, and the condition of the one being filled. -/
  | branches (complete : List (Condition × List Node)) (condition : Condition)
  | nested (name delimiter : String) (close : List Node → Tag)

structure OpenBlock where
  header : Header
  rule : SiblingRule
  kind : BlockKind
  /-- The nodes in front of the block in its own list, last first. -/
  before : List Node

def OpenBlock.name (b : OpenBlock) : String :=
  match b.kind with
  | .branches .. => b.header.name
  | .nested name .. => name

def OpenBlock.delimiter (b : OpenBlock) : String :=
  match b.kind with
  | .branches .. => "end" ++ b.header.name
  | .nested _ delimiter _ => delimiter

structure Building where
  /-- The nodes of the list being filled, last first. -/
  nodes : List Node
  /-- The open blocks, innermost first. -/
  blocks : List OpenBlock

namespace Building

def empty : Building := ⟨[], []⟩

def add (b : Building) (n : Node) : Building := { b with nodes := n :: b.nodes }

/-- Adds a tag, which has to obey its rule among the nodes before it. -/
def place (b : Building) (header : Header) (rule : SiblingRule) (tag : Tag) :
    Except Fault Building :=
  match rule (b.nodes.reverse.map Node.tagName?) with
  | some message => .error (.rule message)
  | none => .ok (b.add (.tag header.span header.name header.markup tag))

/-- The tag that a block becomes with the nodes of its last list. -/
def closed (kind : BlockKind) (nodes : List Node) : Tag :=
  match kind with
  | .branches complete condition => .branches (((condition, nodes) :: complete).reverse)
  | .nested _ _ close => close nodes

/-! ### Tags that only their block knows -/

/-- The fault of a tag that nobody knows inside a block. -/
def unknownIn (block : String) (header : Header) : Fault :=
  match header.name with
  | "else" => .unexpectedElse block
  | "end" => .invalidEnd block ("end" ++ block)
  | name => .unknownTag name

def isBranchTag (name : String) : Bool := name == "elsif" || name == "elseif" || name == "else"

/-- Goes on with the next branch of a block of branches. -/
def nextBranch (b : Building) (block : OpenBlock) (outer : List OpenBlock)
    (complete : List (Condition × List Node)) (condition : Condition) (header : Header) :
    Except Fault Building :=
  let goOn (next : Condition) : Building :=
    let complete := (condition, b.nodes.reverse) :: complete
    ⟨[], { block with kind := .branches complete next } :: outer⟩
  if !isBranchTag header.name then .error (unknownIn block.name header)
  else if condition.isElse then
    let tag := header.name
    let name := block.header.name
    .error (.rule s!"'{tag}' may not follow 'else' in '{name}' tag")
  else if header.name == "else" then .ok (goOn (.last .always))
  else
    match Condition.parse header.name header.markup with
    | .ok next => .ok (goOn next)
    | .error fault => .error fault

def unknown (b : Building) (header : Header) : Except Fault Building :=
  match b.blocks with
  | [] => .error (.unknownTag header.name)
  | block :: outer =>
    match block.kind with
    | .branches complete condition => b.nextBranch block outer complete condition header
    | .nested name .. => .error (unknownIn name header)

/-! ### Opening and closing -/

def openTag (b : Building) (template : String) (header : Header) (reader : TagReader) :
    Except Fault Building :=
  match reader template header with
  | .error fault => .error fault
  | .ok tag =>
    match tag.opening with
    | .leaf leaf => b.place header tag.rule leaf
    | .branches condition =>
      .ok ⟨[], ⟨header, tag.rule, .branches [] condition, b.nodes⟩ :: b.blocks⟩
    | .block name delimiter close =>
      .ok ⟨[], ⟨header, tag.rule, .nested name delimiter close, b.nodes⟩ :: b.blocks⟩

/-- Closes the innermost block. Its rule is checked at its place, and a fault lies there. -/
def closeBlock (b : Building) (block : OpenBlock) (outer : List OpenBlock) :
    Except Fault Building :=
  place ⟨block.before, outer⟩ block.header block.rule (closed block.kind b.nodes.reverse)

end Building

end Liquid
