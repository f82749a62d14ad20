import Liquid.Markup.Expr
import Liquid.Markup.Scanner
import Liquid.Number.Reading

/-!
# Reading expressions

The grammar, with white space allowed in front of an expression and before `|`, `:`, `,`, `..`,
`)` and `]`:

* variable: expression? (`|` name (`:` expression (`,` expression)*)?)*
* expression: string, number, range, keyword or lookup
* range: `(` expression `..` expression `)`
* lookup: name (`.` name or `[` expression `]`)*

A point begins a fraction only in front of a digit and a path step only if no second point
follows, so `1..5` and `a..b` are the ends of ranges. A keyword with a path is a name. Each nested
expression stands behind at least one character of its own, so the length of the text bounds the
nesting.
-/

namespace Liquid

/-- What is read in steps is read exactly if each of the steps reads its part. -/
theorem bind_eq_ok {ε α β : Type} {x : Except ε α} {f : α → Except ε β} {b : β} :
    (x >>= f) = .ok b ↔ ∃ a, x = .ok a ∧ f a = .ok b := by
  cases x <;> simp [bind, Except.bind]

namespace Markup

open Text

/-- What a name without a path stands for, if it is a keyword. -/
def keyword? : String → Option Literal
  | "true" => some (.bool true)
  | "false" => some (.bool false)
  | "nil" => some .nil
  | "null" => some .nil
  | "empty" => some .empty
  | "blank" => some .blank
  | _ => none

def lookupOrKeyword (name : String) (path : List Segment) : Expr :=
  match path, keyword? name with
  | [], some l => .literal l
  | path, _ => .lookup name path

/-- An optional minus, digits, and a fraction if the point has a digit after it. -/
def number (s : List Char) : Except MarkupError (Expr × List Char) :=
  let (minus, afterSign) :=
    match s with
    | '-' :: rest => (['-'], rest)
    | rest => ([], rest)
  let whole := afterSign.takeWhile isDigit
  let rest := afterSign.dropWhile isDigit
  if whole.isEmpty then .error .expectedDigits
  else
    match rest with
    | '.' :: d :: more =>
      if isDigit d then
        let text := minus ++ whole ++ '.' :: (d :: more).takeWhile isDigit
        match readDouble? text with
        | some f => .ok (.literal (.float f), (d :: more).dropWhile isDigit)
        | none => .error (.invalidNumber (String.ofList text))
      else ofInt (minus ++ whole) rest
    | _ => ofInt (minus ++ whole) rest
where
  ofInt (text rest : List Char) : Except MarkupError (Expr × List Char) :=
    match readInt64? text with
    | some i => .ok (.literal (.int i), rest)
    | none => .error (.invalidNumber (String.ofList text))

mutual

def exprWithin : (depth : Nat) → List Char → Except MarkupError (Expr × List Char)
  | 0, _ => .error .expectedExpression
  | depth + 1, s =>
    match dropBlank s with
    | [] => .error .expectedExpression
    | c :: rest =>
      if isQuote c then
        match quoted? c rest with
        | some (inside, after) => .ok (.literal (.str (String.ofList inside)), after)
        | none => .error .unterminatedString
      else if c == '(' then do
        let (first, rest) ← exprWithin depth rest
        match dropBlank rest with
        | '.' :: '.' :: rest => do
          let (last, rest) ← exprWithin depth rest
          match dropBlank rest with
          | ')' :: rest => .ok (.range first last, rest)
          | _ => .error .unclosedRange
        | _ => .error .expectedRangeDots
      else if isDigit c || c == '-' then number (c :: rest)
      else
        match name? (c :: rest) with
        | some (name, rest) => do
          let (path, rest) ← pathWithin depth rest
          .ok (lookupOrKeyword name path, rest)
        | none => .error (.unexpectedCharacter c)

def pathWithin : (depth : Nat) → List Char → Except MarkupError (List Segment × List Char)
  | 0, s => .ok ([], s)
  | depth + 1, s =>
    match s with
    | '.' :: rest =>
      if rest.head? == some '.' then .ok ([], s)
      else
        match name? rest with
        | some (field, rest) => do
          let (path, rest) ← pathWithin depth rest
          .ok (.field field :: path, rest)
        | none => .error .expectedField
    | '[' :: rest => do
      let (index, rest) ← exprWithin depth rest
      match dropBlank rest with
      | ']' :: rest => do
        let (path, rest) ← pathWithin depth rest
        .ok (.index index :: path, rest)
      | _ => .error .unclosedIndex
    | _ => .ok ([], s)

end

/-- The expression at the front of a text. -/
def expr (s : List Char) : Except MarkupError (Expr × List Char) := exprWithin (s.length + 1) s

/-- Expressions between commas, at least one. -/
def argsWithin : (count : Nat) → List Char → Except MarkupError (List Expr × List Char)
  | 0, s => .ok ([], s)
  | count + 1, s => do
    let (arg, rest) ← expr s
    match dropBlank rest with
    | ',' :: rest => do
      let (args, rest) ← argsWithin count rest
      .ok (arg :: args, rest)
    | rest => .ok ([arg], rest)

def filtersWithin : (count : Nat) → List Char → Except MarkupError (List FilterCall × List Char)
  | 0, s => .ok ([], s)
  | count + 1, s =>
    match dropBlank s with
    | '|' :: rest =>
      match name? (dropBlank rest) with
      | none => .error .expectedFilterName
      | some (name, rest) => do
        let (args, rest) ←
          match dropBlank rest with
          | ':' :: rest => argsWithin (rest.length + 1) rest
          | rest => .ok ([], rest)
        let (calls, rest) ← filtersWithin count rest
        .ok (⟨name, args⟩ :: calls, rest)
    | rest => .ok ([], rest)

/-- Nothing but white space may follow. -/
def finish {α : Type} (result : α × List Char) : Except MarkupError α :=
  match dropBlank result.2 with
  | [] => .ok result.1
  | rest => .error (.trailing (String.ofList rest))

/-- An expression, nil when there is none in front of the first filter, and its filters. -/
def piped (s : List Char) : Except MarkupError (Variable × List Char) := do
  let (e, rest) ←
    match dropBlank s with
    | [] => .ok (.literal .nil, [])
    | '|' :: rest => .ok (.literal .nil, '|' :: rest)
    | rest => expr rest
  let (filters, rest) ← filtersWithin (rest.length + 1) rest
  .ok (⟨e, filters⟩, rest)

end Markup

def Expr.parse (s : String) : Except MarkupError Expr := do Markup.finish (← Markup.expr s.toList)

def Variable.parse (s : String) : Except MarkupError Variable := do
  Markup.finish (← Markup.piped s.toList)

end Liquid
