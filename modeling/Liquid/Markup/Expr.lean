/-!
# Expressions

What stands between the delimiters of a variable, and in the markup of tags: literals, inclusive
ranges, and names followed by a path of fields and indexes. A variable is an expression with the
filters its value goes through.
-/

namespace Liquid

inductive Literal where
  | nil
  | bool (b : Bool)
  | int (i : Int64)
  | float (f : Float)
  | str (s : String)
  /-- Equal to empty texts and containers. -/
  | empty
  /-- Equal to all that is empty, nil, false or white space. -/
  | blank

mutual

inductive Expr where
  | literal (l : Literal)
  | range (first last : Expr)
  | lookup (name : String) (path : List Segment)

inductive Segment where
  | field (name : String)
  | index (e : Expr)

end

instance : Inhabited Expr := ⟨.literal .nil⟩

structure FilterCall where
  name : String
  args : List Expr

structure Variable where
  expr : Expr
  filters : List FilterCall

/-- The literal that a variable consists of, if it is one without filters. -/
def Variable.literal? (v : Variable) : Option Literal :=
  match v.expr, v.filters with
  | .literal l, [] => some l
  | _, _ => none

end Liquid
