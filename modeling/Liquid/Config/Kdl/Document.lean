import Liquid.Config.Kdl.Datum

/-!
# KDL documents

A document is a list of nodes. A node is a name and, each behind some space, its entries, which are
arguments and properties, and at last its children in braces. A line break, a semicolon, a line
comment or the end of the document ends it. A slash and a dash take the node, the entry or the
children behind them out of the document, but neither the end of that node nor the space in front.
What does not fit is refused as a whole.
-/

namespace Liquid

namespace Kdl

inductive Entry where
  | argument (value : Datum)
  | property (name : String) (value : Datum)
deriving Repr, DecidableEq

structure Node where
  name : String
  entries : List Entry
  children : List Node
deriving Repr

/-! ### Entries -/

/-- A string is the name of a property if an equals sign follows it. -/
def entry? (s : List Char) : Option (Entry × List Char) :=
  match string? s with
  | some (text, rest) =>
    match skipNodeSpace rest with
    | '=' :: after =>
      (datum? (skipNodeSpace after)).map fun (value, after) => (.property text value, after)
    | _ => some (.argument (.str text), rest)
  | none => (datum? s).map fun (value, after) => (.argument value, after)

/-- The entries from here on, and the rest after the last one. -/
def entriesFrom : (steps : Nat) → List Char → List Entry × List Char
  | 0, s => ([], s)
  | steps + 1, s =>
    let next := skipNodeSpace s
    if next.length = s.length then ([], s)
    else
      match next with
      | '/' :: '-' :: left =>
        match entry? (skipLineSpace left) with
        | some (_, rest) => entriesFrom steps rest
        | none => ([], s)
      | _ =>
        match entry? next with
        | some (entry, rest) =>
          let (more, after) := entriesFrom steps rest
          (entry :: more, after)
        | none => ([], s)

def entries (s : List Char) : List Entry × List Char := entriesFrom s.length s

/-! ### Nodes -/

/-- The rest after the end of a node. The brace behind the last child of a node stays. -/
def afterNodeEnd? : List Char → Option (List Char)
  | [] => some []
  | ';' :: rest => some rest
  | '\x7d' :: rest => some ('\x7d' :: rest)
  | s => (afterLineComment? s).or (afterNewline? s)

mutual

/-- The nodes up to a closing brace, and the rest after it. -/
def blockFrom? : (steps : Nat) → List Char → Option (List Node × List Char)
  | 0, _ => none
  | steps + 1, s =>
    match nodesFrom? steps s with
    | some (nodes, '\x7d' :: rest) => some (nodes, rest)
    | _ => none

/-- The rest after space and children that are left out, each of them behind some space. -/
def afterHidden? : (steps : Nat) → List Char → Option (List Char)
  | 0, _ => none
  | steps + 1, s =>
    match skipNodeSpace s with
    | '/' :: '-' :: left =>
      match s, skipLineSpace left with
      | '/' :: '-' :: _, _ => none
      | _, '\x7b' :: inside =>
        (blockFrom? steps inside).bind fun (_, rest) => afterHidden? steps rest
      | _, _ => none
    | rest => some rest

/-- A node up to its end, which is left. -/
def nodeFrom? : (steps : Nat) → List Char → Option (Node × List Char)
  | 0, _ => none
  | steps + 1, s =>
    ((afterType? s).bind string?).bind fun (name, rest) =>
      let (entries, rest) := entries rest
      (afterHidden? steps rest).bind fun
        | '\x7b' :: inside =>
          (blockFrom? steps inside).bind fun (children, rest) =>
            (afterHidden? steps rest).map fun after => (⟨name, entries, children⟩, after)
        | rest => some (⟨name, entries, []⟩, rest)

def nodesFrom? : (steps : Nat) → List Char → Option (List Node × List Char)
  | 0, _ => none
  | steps + 1, s =>
    match skipLineSpace s with
    | [] => some ([], [])
    | '\x7d' :: rest => some ([], '\x7d' :: rest)
    | '/' :: '-' :: left =>
      (nodeFrom? steps (skipLineSpace left)).bind fun (_, rest) => nodesFrom? steps rest
    | s =>
      (nodeFrom? steps s).bind fun (node, rest) =>
        (afterNodeEnd? rest).bind fun rest =>
          (nodesFrom? steps rest).map fun (more, after) => (node :: more, after)

end

def afterByteOrderMark : List Char → List Char
  | '\uFEFF' :: rest => rest
  | s => s

/-- The nodes of a document. No character begins more than three of its parts, which bounds the
steps. -/
def parse? (source : String) : Option (List Node) :=
  let s := afterByteOrderMark source.toList
  match nodesFrom? (3 * s.length + 3) s with
  | some (nodes, []) => some nodes
  | _ => none

end Kdl

end Liquid
