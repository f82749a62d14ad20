import Liquid.Document.Parse
import Liquid.Tag.Standard

/-!
# The block grammar

What the rows of tokens are that make a template over the standard tags, said without the parser:
items one after the other, where an item is a text, a variable, an assign, a loop control, a block
of branches or a table row. The markup of each tag has to be readable on its own.

A template and its tokens are compared through entries. The walk through the nodes gives an entry
for each text, variable and tag, in order, with the content of a block between its opening and its
closing. The entries of a token are read off the token alone. If both rows are the same, nothing
was lost, doubled or moved, and each node stands under the block that encloses its token.
-/

namespace Liquid

/-- A tag with this name and this markup. -/
def Token.IsTag (t : Token) (name markup : String) : Prop :=
  t.kind = .tag ∧ Header.ofToken t = .ok ⟨name, markup, t.span⟩

mutual

inductive Items : List Token → Prop where
  | none : Items []
  | more {first rest : List Token} : Item first → Items rest → Items (first ++ rest)

inductive Item : List Token → Prop where
  | text {t : Token} : t.kind = .text → Item [t]
  | output {t : Token} {v : Variable} :
      t.kind = .variable → t.terminated = true → Variable.parse t.content = .ok v → Item [t]
  | assign {t : Token} {markup : String} {target : String × Variable} :
      t.IsTag "assign" markup → Tag.assignment? markup = some target → Item [t]
  | stop {t : Token} {markup : String} : t.IsTag "break" markup → Item [t]
  | skip {t : Token} {markup : String} : t.IsTag "continue" markup → Item [t]
  | branches {t : Token} {markup : String} {c : Condition} {body rest : List Token} :
      t.IsTag "if" markup → Condition.parse "if" markup = .ok c → Items body → Branches rest →
      Item (t :: (body ++ rest))
  | tablerow {t last : Token} {markup ignored : String} {row : TableRow} {body : List Token} :
      t.IsTag "tablerow" markup → TableRow.ofMarkup? markup = some row → Items body →
      last.IsTag "endtablerow" ignored → Item (t :: (body ++ [last]))

/-- What follows the items of a branch, up to the end of its block. -/
inductive Branches : List Token → Prop where
  | done {last : Token} {ignored : String} : last.IsTag "endif" ignored → Branches [last]
  | otherwise {t last : Token} {ignored also : String} {body : List Token} :
      t.IsTag "else" ignored → Items body → last.IsTag "endif" also →
      Branches (t :: (body ++ [last]))
  | next {t : Token} {name markup : String} {c : Condition} {body rest : List Token} :
      name = "elsif" ∨ name = "elseif" → t.IsTag name markup →
      Condition.parse name markup = .ok c → Items body → Branches rest →
      Branches (t :: (body ++ rest))

end

/-! ### Entries -/

inductive Entry where
  | text (span : Span) (s : String)
  | output (span : Span) (markup : String) (v : Variable)
  /-- A tag begins; what it was read as follows. -/
  | opening (span : Span) (name markup : String)
  | assign (name : String) (v : Variable)
  | interrupt (flow : Flow)
  | row (row : TableRow)
  /-- A branch begins, the first one of its block or another. -/
  | branch (c : Condition)
  | host
  | closing (name : String)

mutual

def Node.walk : Node → List Entry
  | .text span s => [.text span s]
  | .output span markup v => [.output span markup v]
  | .tag span name markup body => .opening span name markup :: body.walk name

/-- The entries behind the opening of a tag of this name. -/
def Tag.walk (name : String) : Tag → List Entry
  | .assign name v => [.assign name v]
  | .interrupt flow => [.interrupt flow]
  | .branches branches => walkBranches branches ++ [.closing name]
  | .tablerow row nodes => .row row :: (walkAll nodes ++ [.closing name])
  | .action _ => [.host]
  | .block _ nodes => .host :: (walkAll nodes ++ [.closing name])

def walkBranches : List (Condition × List Node) → List Entry
  | [] => []
  | (c, nodes) :: rest => .branch c :: (walkAll nodes ++ walkBranches rest)

def walkAll : List Node → List Entry
  | [] => []
  | n :: rest => n.walk ++ walkAll rest

end

/-- What the markup of a tag says, if it can be read. -/
def Header.reading (h : Header) : List Entry :=
  match h.name with
  | "assign" => ((Tag.assignment? h.markup).map fun (name, v) => .assign name v).toList
  | "break" => [.interrupt .stop]
  | "continue" => [.interrupt .skip]
  | "if" => ((Condition.parse h.name h.markup).toOption.map .branch).toList
  | "tablerow" => ((TableRow.ofMarkup? h.markup).map .row).toList
  | _ => []

def Header.entries (h : Header) : List Entry :=
  match h.name with
  | "elsif" => ((Condition.parse h.name h.markup).toOption.map .branch).toList
  | "elseif" => ((Condition.parse h.name h.markup).toOption.map .branch).toList
  | "else" => [.branch (.last .always)]
  | "endif" => [.closing "if"]
  | "endtablerow" => [.closing "tablerow"]
  | name => .opening h.span name h.markup :: h.reading

/-- The entries of a token, read off the token alone. A text of no length has none. -/
def Token.entries (t : Token) : List Entry :=
  match t.kind with
  | .text => if t.content.isEmpty then [] else [.text t.span t.content]
  | .variable =>
    ((Variable.parse t.content).toOption.map
      (.output t.span (trimText t.content))).toList
  | .tag =>
    match Header.ofToken t with
    | .ok h => h.entries
    | .error _ => []

@[simp] theorem walkAll_append (nodes others : List Node) :
    walkAll (nodes ++ others) = walkAll nodes ++ walkAll others := by
  induction nodes with
  | nil => rfl
  | cons n rest ih => simp [walkAll, ih]

@[simp] theorem walkBranches_append (branches others : List (Condition × List Node)) :
    walkBranches (branches ++ others) = walkBranches branches ++ walkBranches others := by
  induction branches with
  | nil => rfl
  | cons branch rest ih => simp [walkBranches, ih]

end Liquid
