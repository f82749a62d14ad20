import Liquid.Document.Node
import Liquid.Markup.Parse

/-!
# Table rows

`tablerow item in collection cols:3 limit:6 offset:2` shows a window of an array as rows of cells,
with the rest of the layout in between. What a cell holds is rendered by the body that is handed
over, once for each item and in a frame that the cells share. Leaving the loop ends the row after
its cell; leaving the round goes on with the next cell.
-/

namespace Liquid

open Text

namespace TableRow

/-! ### Markup -/

def attributesWithin : (count : Nat) → List Char → Option (List (String × Expr))
  | 0, _ => none
  | count + 1, s =>
    match s.dropWhile fun c => isBlank c || c == ',' with
    | [] => some []
    | rest =>
      match Markup.name? rest with
      | none => none
      | some (key, rest) =>
        match dropBlank rest with
        | ':' :: rest =>
          match Markup.expr rest with
          | .error _ => none
          | .ok (e, rest) => (attributesWithin count rest).map fun more => (key, e) :: more
        | _ => none

/-- A name, the word `in`, an expression, and attributes that commas may separate. -/
def ofMarkup? (markup : String) : Option TableRow :=
  match Markup.name? (dropBlank markup.toList) with
  | none => none
  | some (name, rest) =>
    match Markup.word? "in" (dropBlank rest) with
    | none => none
    | some rest =>
      match Markup.expr rest with
      | .error _ => none
      | .ok (collection, rest) =>
        (attributesWithin (rest.length + 1) rest).map fun attributes =>
          ⟨name, collection, attributes⟩

/-! ### Layout -/

/-- The items from `offset` on, as many as `limit` says if it is given. -/
def window (offset : Nat) (limit : Option Nat) (items : List Value) : List Value :=
  match limit with
  | some limit => (items.drop offset).take limit
  | none => items.drop offset

/-- What a cell can ask about its place; `column` is the number of cells before it in its row. -/
def loopInfo (index length column columns : Nat) : Value :=
  .hash
    [("col", .ofNat (column + 1)),
     ("col0", .ofNat column),
     ("col_first", .bool (column == 0)),
     ("col_last", .bool (column + 1 == columns)),
     ("first", .bool (index == 0)),
     ("index", .ofNat (index + 1)),
     ("index0", .ofNat index),
     ("last", .bool (index + 1 == length)),
     ("length", .ofNat length),
     ("rindex", .ofNat (length - index)),
     ("rindex0", .ofNat (length - index - 1))]

def cellStart (column : Nat) : String :=
  let number := column + 1
  s!"<td class=\"col{number}\">"

/-- The end of a row and the start of the next one; `row` counts from one. -/
def rowBreak (row : Nat) : String :=
  let number := row + 1
  s!"</tr>\n<tr class=\"row{number}\">"

/-- The cells from an item on. The first row has number one. -/
def cells (name : String) (length columns : Nat) (body : Render Flow) :
    (index row column : Nat) → List Value → Render Unit
  | _, _, _, [] => return ()
  | index, row, column, item :: rest => do
    Render.set name item
    Render.set "tablerowloop" (loopInfo index length column columns)
    Render.write (cellStart column)
    let flow ← body
    Render.write "</td>"
    if flow = .stop then return ()
    else if column + 1 = columns ∧ index + 1 ≠ length then
      Render.write (rowBreak row)
      cells name length columns body (index + 1) (row + 1) 0 rest
    else cells name length columns body (index + 1) row (column + 1) rest

/-! ### Rendering -/

/-- The value of the first attribute with a name, as a whole number. -/
def attribute? (row : TableRow) (key : String) : Render (Option Int64) :=
  match row.attributes.find? fun (name, _) => name == key with
  | some (_, e) => Render.eval fun env names => do (← e.exposed env names).readInt?
  | none => return none

/-- Negative numbers count as zero. -/
def natural (i : Int64) : Nat := i.toInt.toNat

def render (row : TableRow) (body : Render Flow) : Render Flow := do
  match ← Render.eval fun env names => row.collection.exposed env names with
  | .array items =>
    let offset := ((← row.attribute? "offset").map natural).getD 0
    let limit := (← row.attribute? "limit").map natural
    let columns := ((← row.attribute? "cols").map natural).getD 0
    let shown := window offset limit items
    Render.write "<tr class=\"row1\">\n"
    Render.stack (cells row.name shown.length columns body 0 1 0 shown)
    Render.write "</tr>\n"
    return .normal
  | _ => return .normal

end TableRow

end Liquid
