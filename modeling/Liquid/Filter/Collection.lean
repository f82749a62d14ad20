import Liquid.Filter.Basic

/-!
# Filters on containers

These look at their input as it is. In a template that is never a lazy value, because values are
exposed before they are piped.
-/

namespace Liquid.Filter

def size : Filter := fun input _ =>
  return .ofNat <|
    match input with
    | .str s => s.length
    | .array items => items.length
    | .hash entries => entries.length
    | _ => 0

def first : Filter := fun input _ =>
  return match input with
    | .array items => items.head?.getD .nil
    | _ => .nil

def last : Filter := fun input _ =>
  return match input with
    | .array items => items.getLast?.getD .nil
    | _ => .nil

def reverse : Filter := fun input _ => do
  match input with
  | .array items => return .array items.reverse
  | other =>
    let type := (← other.read).typeName
    throw (.render s!"reverse: expected array, got {type}")

/-- The texts of the items with a space in between, or another text. -/
def join : Filter := fun input args => do
  let glue ←
    match args[0]? with
    | some v => v.readPlain
    | none => pure " "
  match input with
  | .array items =>
    Live.compute (Value.itemCellsOnto [] items)
    return .str (glue.intercalate (items.map Value.plain))
  | other => return .str (← other.readPlain)

/-- The argument in the place of nil, false and what is empty. -/
def default : Filter := fun input args => do
  let fallback ← arg "default" args 0
  let v ← input.read
  return if v.isTruthy && !v.isEmpty then input else fallback

end Liquid.Filter
