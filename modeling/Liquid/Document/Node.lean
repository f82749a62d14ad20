import Liquid.Render.Basic

/-!
# Nodes

A parsed template is a list of nodes. The tags of the language are told apart, so that what a
template means can be read off its nodes; tags added by the host are actions, alone or around the
nodes of their block.
-/

namespace Liquid

/-- What the rows of a table are made from. -/
structure TableRow where
  name : String
  collection : Expr
  attributes : List (String × Expr)

mutual

inductive Node where
  | text (span : Span) (text : String)
  | output (span : Span) (markup : String) (v : Variable)
  | tag (span : Span) (name markup : String) (body : Tag)

inductive Tag where
  | assign (name : String) (v : Variable)
  | interrupt (flow : Flow)
  /-- The first branch whose condition holds. -/
  | branches (branches : List (Condition × List Node))
  | tablerow (row : TableRow) (nodes : List Node)
  | action (run : Render Flow)
  | block (around : Render Flow → Render Flow) (nodes : List Node)

end

instance : Inhabited Tag := ⟨.interrupt .normal⟩

instance : Inhabited Node := ⟨.text ⟨0, 0⟩ ""⟩

def Node.span : Node → Span
  | .text span _ => span
  | .output span .. => span
  | .tag span .. => span

def Node.tagName? : Node → Option String
  | .tag _ name .. => some name
  | _ => none

structure Document where
  nodes : List Node
  span : Span

end Liquid
