import Liquid.Condition.Basic
import Liquid.Error
import Liquid.Markup.Parse

/-!
# Reading conditions

The markup is cut into words at ASCII white space, where a quoted text is never cut. The words
`and` and `or` separate the tests, and in each test the first operator that is not its first word
separates the operands. A word keeps the gap in front of it, so that an operand is read from the
exact text it was written as.
-/

namespace Liquid

namespace Condition

open Text Markup

/-- The most tests in one condition. -/
def maxTests : Nat := 500

/-! ### Words -/

structure Word where
  gap : List Char
  text : List Char
deriving Repr, DecidableEq

def Word.name (w : Word) : String := String.ofList w.text

/-- The rest of a word, inside a quote or not, and what follows it. -/
def wordFrom? : (quote : Option Char) → List Char → Option (List Char × List Char)
  | none, [] => some ([], [])
  | some _, [] => none
  | none, c :: rest =>
    if isAsciiBlank c then some ([], c :: rest)
    else
      (wordFrom? (if isQuote c then some c else none) rest).map fun (word, after) =>
        (c :: word, after)
  | some q, c :: rest =>
    (wordFrom? (if c == q then none else some q) rest).map fun (word, after) => (c :: word, after)

def wordsWithin : (count : Nat) → List Char → Option (List Word)
  | 0, _ => some []
  | count + 1, s =>
    match s.dropWhile isAsciiBlank with
    | [] => some []
    | rest =>
      (wordFrom? none rest).bind fun (text, after) =>
        (wordsWithin count after).map fun more => ⟨s.takeWhile isAsciiBlank, text⟩ :: more

/-- The words of a markup, unless a quote is left open. -/
def words? (s : List Char) : Option (List Word) := wordsWithin (s.length + 1) s

/-! ### Tests -/

/-- The words of the first test, and those of each further test with what joins it on. -/
def groups : List Word → List Word × List (Combinator × List Word)
  | [] => ([], [])
  | w :: rest =>
    let (first, more) := groups rest
    match Combinator.ofWord? w.name with
    | some c => ([], (c, first) :: more)
    | none => (w :: first, more)

/-- The text from the first word to the last. -/
def written : List Word → List Char
  | [] => []
  | w :: rest => w.text ++ rest.flatMap fun w => w.gap ++ w.text

def operand? (words : List Word) : Option Variable :=
  match words with
  | [] => none
  | words =>
    match Variable.parse (String.ofList (written words)) with
    | .ok v => some v
    | .error _ => none

def isOperator (w : Word) : Bool := (Operator.ofWord? w.name).isSome

def test? : List Word → Option Test
  | [] => none
  | first :: rest =>
    let left := first :: rest.takeWhile fun w => !isOperator w
    match rest.dropWhile fun w => !isOperator w with
    | [] => (operand? left).map .truthy
    | w :: right =>
      match Operator.ofWord? w.name, operand? left, operand? right with
      | some op, some l, some r => some (.compare l op r)
      | _, _, _ => none

def chain? (first : List Word) : List (Combinator × List Word) → Option Condition
  | [] => (test? first).map .last
  | (c, next) :: more =>
    match test? first, chain? next more with
    | some t, some rest => some (.link t c rest)
    | _, _ => none

/-- The condition of a tag, which its faults name. -/
def parse (tag markup : String) : Except Fault Condition :=
  let usage := Fault.tagUsage tag s!"{tag} [expression]"
  match words? markup.toList with
  | none => .error usage
  | some words =>
    let (first, more) := groups words
    if maxTests < more.length + 1 then .error (.tooManyConditions tag maxTests)
    else
      match chain? first more with
      | some c => .ok c
      | none => .error usage

end Condition

end Liquid
