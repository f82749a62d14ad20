import Liquid.Render.Nodes

/-!
# The parts of a template

What a template evaluates, read off its nodes from first to last: variables that are written,
assigns, conditions of branches, and the headers of table rows. Tags that the host brings along
count as one opaque part each. A property of templates that speaks about all expressions, however
deep their tags are nested, is a property of every part, and of every expression within a part.
-/

namespace Liquid

inductive Part where
  | output (v : Variable)
  | assign (name : String) (v : Variable)
  | condition (c : Condition)
  | row (row : TableRow)
  /-- A tag of the host, alone or around a block. -/
  | host

mutual

def Node.parts : Node → List Part
  | .text _ _ => []
  | .output _ _ v => [.output v]
  | .tag _ _ _ body => body.parts

def Tag.parts : Tag → List Part
  | .assign name v => [.assign name v]
  | .interrupt _ => []
  | .branches branches => branchParts branches
  | .tablerow row nodes => .row row :: allParts nodes
  | .action _ => [.host]
  | .block _ nodes => .host :: allParts nodes

def branchParts : List (Condition × List Node) → List Part
  | [] => []
  | (c, nodes) :: rest => .condition c :: (allParts nodes ++ branchParts rest)

def allParts : List Node → List Part
  | [] => []
  | n :: rest => n.parts ++ allParts rest

end

def Part.isHost : Part → Bool
  | .host => true
  | _ => false

/-- Text, variables and the tags of the language, nested to any depth. -/
def isStandard (nodes : List Node) : Bool := (allParts nodes).all fun part => !part.isHost

theorem not_host_of_isStandard {nodes : List Node} (standard : isStandard nodes = true) :
    ∀ part ∈ allParts nodes, part ≠ .host := by
  intro part member host
  have visible := List.all_eq_true.mp standard part member
  simp [host, Part.isHost] at visible

/-! ### Expressions -/

mutual

/-- An expression and those it is made of. -/
def Expr.within (e : Expr) : List Expr :=
  e :: match e with
    | .literal _ => []
    | .range first last => first.within ++ last.within
    | .lookup _ path => pathWithin path

def pathWithin : List Segment → List Expr
  | [] => []
  | segment :: rest => segment.within ++ pathWithin rest

def Segment.within : Segment → List Expr
  | .field _ => []
  | .index e => e.within

end

def callsWithin (calls : List FilterCall) : List Expr :=
  calls.flatMap fun call => call.args.flatMap Expr.within

def Variable.within (v : Variable) : List Expr := v.expr.within ++ callsWithin v.filters

def Test.within : Test → List Expr
  | .always => []
  | .truthy v => v.within
  | .compare left _ right => left.within ++ right.within

def Condition.tests : Condition → List Test
  | .last t => [t]
  | .link t _ rest => t :: rest.tests

def Part.within : Part → List Expr
  | .output v => v.within
  | .assign _ v => v.within
  | .condition c => c.tests.flatMap Test.within
  | .row header => header.collection.within ++ header.attributes.flatMap fun (_, e) => e.within
  | .host => []

end Liquid
