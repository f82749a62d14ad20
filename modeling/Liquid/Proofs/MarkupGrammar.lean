import Liquid.Markup.Parse
import Liquid.Number.Written

/-!
# The grammar of markup

The ways to write expressions, filters and variables, said without the parser. A relation holds
between a tree and a text if the text is one way to write the tree: in either kind of quotes, with
any digits of the right value, and with white space wherever there may be some. There may be none
around the points and in front of the brackets of a path.

Not every tree can be written. A text with both kinds of quotes in it cannot, nor a double that no
digits stand for, nor a keyword that is to be a name without a path. `Variable.WellFormed` says
which trees can be.
-/

namespace Liquid

namespace Markup

open Text

/-- Nothing but white space. -/
def Blank (s : List Char) : Prop := ∀ c ∈ s, isBlank c = true

/-- Digits, at least one. -/
structure IsDigits (s : List Char) : Prop where
  some : s ≠ []
  digits : ∀ c ∈ s, isDigit c = true

inductive IsName : List Char → Prop where
  | plain {c : Char} {body : List Char} :
      isNameStart c = true → (∀ d ∈ body, isNameChar d = true) → IsName (c :: body)
  | asking {c : Char} {body : List Char} :
      isNameStart c = true → (∀ d ∈ body, isNameChar d = true) → IsName (c :: body ++ ['?'])

/-- The double that digits in front of and behind a point stand for. -/
def decimal (negative : Bool) (whole fraction : List Char) : Float :=
  let d := Decimal.toDouble (.finite (digitsValue (whole ++ fraction)) (-Int.ofNat fraction.length))
  if negative then -d else d

mutual

/-- The ways to write an expression. -/
inductive IsExpr : Expr → List Char → Prop where
  | str {quote : Char} {inside : List Char} :
      isQuote quote = true → quote ∉ inside →
      IsExpr (.literal (.str (String.ofList inside))) (quote :: (inside ++ [quote]))
  | int {i : Int64} {digits : List Char} (negative : Bool) :
      IsDigits digits → i.toInt = Double.signed negative (digitsValue digits) →
      IsExpr (.literal (.int i)) (Double.sign negative ++ digits)
  | float {whole fraction : List Char} (negative : Bool) :
      IsDigits whole → IsDigits fraction →
      IsExpr (.literal (.float (decimal negative whole fraction)))
        (Double.sign negative ++ (whole ++ '.' :: fraction))
  | keyword {word : String} {l : Literal} :
      keyword? word = some l → IsExpr (.literal l) word.toList
  | range {first last : Expr} {a s b c t d : List Char} :
      Blank a → IsExpr first s → Blank b → Blank c → IsExpr last t → Blank d →
      IsExpr (.range first last) ('(' :: (a ++ s ++ b ++ '.' :: '.' :: (c ++ t ++ d ++ [')'])))
  | lookup {name : String} {path : List Segment} {s : List Char} :
      IsName name.toList → (path = [] → keyword? name = none) → IsPath path s →
      IsExpr (.lookup name path) (name.toList ++ s)

inductive IsPath : List Segment → List Char → Prop where
  | done : IsPath [] []
  | field {name : String} {path : List Segment} {s : List Char} :
      IsName name.toList → IsPath path s →
      IsPath (.field name :: path) ('.' :: (name.toList ++ s))
  | index {e : Expr} {path : List Segment} {a s b t : List Char} :
      Blank a → IsExpr e s → Blank b → IsPath path t →
      IsPath (.index e :: path) ('[' :: (a ++ s ++ b ++ ']' :: t))

end

/-- Arguments between commas, at least one. -/
inductive IsArgs : List Expr → List Char → Prop where
  | last {e : Expr} {a s : List Char} : Blank a → IsExpr e s → IsArgs [e] (a ++ s)
  | more {e : Expr} {args : List Expr} {a s b t : List Char} :
      Blank a → IsExpr e s → Blank b → IsArgs args t → IsArgs (e :: args) (a ++ s ++ b ++ ',' :: t)

inductive IsFilter : FilterCall → List Char → Prop where
  | bare {name : String} {a : List Char} :
      Blank a → IsName name.toList → IsFilter ⟨name, []⟩ ('|' :: (a ++ name.toList))
  | called {name : String} {args : List Expr} {a b s : List Char} :
      Blank a → IsName name.toList → Blank b → IsArgs args s →
      IsFilter ⟨name, args⟩ ('|' :: (a ++ name.toList ++ b ++ ':' :: s))

inductive IsFilters : List FilterCall → List Char → Prop where
  | done : IsFilters [] []
  | more {call : FilterCall} {calls : List FilterCall} {a s t : List Char} :
      Blank a → IsFilter call s → IsFilters calls t → IsFilters (call :: calls) (a ++ s ++ t)

/-- The ways to write a variable. Nothing at all in front of the filters is nil. -/
inductive IsVariable : Variable → List Char → Prop where
  | given {e : Expr} {filters : List FilterCall} {a s t b : List Char} :
      Blank a → IsExpr e s → IsFilters filters t → Blank b →
      IsVariable ⟨e, filters⟩ (a ++ s ++ t ++ b)
  | absent {filters : List FilterCall} {a t b : List Char} :
      Blank a → IsFilters filters t → Blank b →
      IsVariable ⟨.literal .nil, filters⟩ (a ++ t ++ b)

end Markup

/-! ### Trees that can be written -/

open Markup

/-- A text has to do without one kind of quotes, and a double has to have a decimal notation. -/
def Literal.WellFormed : Literal → Prop
  | .str s => ∃ quote, isQuote quote = true ∧ quote ∉ s.toList
  | .float f =>
    ∃ negative whole fraction, IsDigits whole ∧ IsDigits fraction ∧
      f = decimal negative whole fraction
  | _ => True

mutual

def Expr.WellFormed : Expr → Prop
  | .literal l => l.WellFormed
  | .range first last => first.WellFormed ∧ last.WellFormed
  | .lookup name path =>
    IsName name.toList ∧ (path = [] → keyword? name = none) ∧ pathWellFormed path

def pathWellFormed : List Segment → Prop
  | [] => True
  | segment :: rest => segment.WellFormed ∧ pathWellFormed rest

def Segment.WellFormed : Segment → Prop
  | .field name => IsName name.toList
  | .index e => e.WellFormed

end

def FilterCall.WellFormed (call : FilterCall) : Prop :=
  IsName call.name.toList ∧ ∀ e ∈ call.args, e.WellFormed

def Variable.WellFormed (v : Variable) : Prop :=
  v.expr.WellFormed ∧ ∀ call ∈ v.filters, call.WellFormed

end Liquid
