import Liquid.Tag.TableRow

/-!
# Rendering nodes

A list of nodes is rendered in order up to the first that leaves the loop or its round. This is
the one place where errors are caught: what fails inside a node is written where that node stands,
and the list goes on behind it.
-/

namespace Liquid

mutual

def Node.render : Node → Render Flow
  | .text _ s => do
    Render.write s
    return .normal
  | .output _ _ v => do
    Render.writeValue (← Render.eval fun env names => v.evaluate env names)
    return .normal
  | .tag _ _ _ body => body.render

def Tag.render : Tag → Render Flow
  | .assign name v => do
    Render.assign name (← Render.eval fun env names => v.evaluate env names)
    return .normal
  | .interrupt flow => return flow
  | .branches branches => Render.stack (renderFirst branches)
  | .tablerow row nodes => row.render (renderAll nodes)
  | .action run => run
  | .block around nodes => around (renderAll nodes)

/-- The first branch whose condition holds. -/
def renderFirst : List (Condition × List Node) → Render Flow
  | [] => return .normal
  | (c, nodes) :: rest => do
    if ← Render.eval fun env names => c.evaluate env names then renderAll nodes
    else renderFirst rest

def renderAll : List Node → Render Flow
  | [] => return .normal
  | n :: rest => do
    Render.checkDeadline
    match ← Render.recover n.render with
    | .normal => renderAll rest
    | flow => return flow

end

end Liquid
