import Liquid.Value.Compare

/-!
# Which cells a reading computes

Looking at a value computes the cells on its outside; writing it computes every cell that its text
depends on; a comparison computes cells only as far as it goes, which is to the first pair of
items that differ.
-/

namespace Liquid

namespace Value

/-- The cells on the outside. -/
def outerCells : Value → List Cell
  | .lazy cell content => cell :: content.outerCells
  | _ => []

mutual

/-- The cells inside a value, added to others. Objects are not looked into. -/
def cellsOnto (found : List Cell) : Value → List Cell
  | .lazy cell content => content.cellsOnto (cell :: found)
  | .array items => itemCellsOnto found items
  | .hash entries => entryCellsOnto found entries
  | _ => found

def itemCellsOnto (found : List Cell) : List Value → List Cell
  | [] => found
  | v :: rest => itemCellsOnto (v.cellsOnto found) rest

def entryCellsOnto (found : List Cell) : List (String × Value) → List Cell
  | [] => found
  | (_, v) :: rest => entryCellsOnto (v.cellsOnto found) rest

end

/-- The cells that the text of a value depends on. -/
def cells (v : Value) : List Cell := v.cellsOnto []

/-! ### Comparisons -/

mutual

/-- The cells that a loose comparison computes, added to others. -/
def looseEqCellsOnto (found : List Cell) : Value → Value → List Cell
  | .lazy cell content, other => content.looseEqCellsOnto (cell :: found) other
  | .array items, other =>
    match other.resolved with
    | .array others =>
      if items.length = others.length then
        looseEqItemCellsOnto (other.outerCells ++ found) items others
      else other.outerCells ++ found
    | _ => other.outerCells ++ found
  | _, other => other.outerCells ++ found

def looseEqItemCellsOnto (found : List Cell) : List Value → List Value → List Cell
  | a :: as, b :: bs =>
    let found := a.looseEqCellsOnto found b
    if a.looseEq b then looseEqItemCellsOnto found as bs else found
  | _, _ => found

end

def looseEqCells (a b : Value) : List Cell := a.looseEqCellsOnto [] b

/-- The search goes through the items up to one that is equal. -/
def searchCellsOnto (found : List Cell) (needle : Value) : List Value → List Cell
  | [] => found
  | v :: rest =>
    let found := v.looseEqCellsOnto found needle
    if v.looseEq needle then found else searchCellsOnto found needle rest

def containsCells (v needle : Value) : List Cell :=
  let outer := v.outerCells ++ needle.outerCells
  match v.resolved with
  | .str _ => needle.cellsOnto outer
  | .array items => searchCellsOnto outer needle.resolved items
  | _ => outer

end Value

end Liquid
