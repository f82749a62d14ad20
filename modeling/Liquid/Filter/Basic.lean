import Liquid.Bindings
import Liquid.Error
import Liquid.Heap
import Liquid.Text.Case
import Liquid.Text.Letter

/-!
# Filters

A filter takes the piped value and the values of its arguments. Without a required argument it
fails with an error of the caller; with an input it cannot work on, with one of the template.
Filters are registered in snake case, whatever the case they are given in.
-/

namespace Liquid

/-- Computations that may fail; what they did to the heap before stays done. -/
abbrev Eval (α : Type) := ExceptT Error Live α

abbrev Filter := Value → List Value → Eval Value

namespace Filter

/-! ### Names -/

/-- `lower` says whether the character before is in lower case or a digit. -/
def snakeFrom : (lower : Bool) → List Char → List Char
  | _, [] => []
  | lower, c :: rest =>
    if Text.isUpper c then
      (if lower then ['_'] else []) ++ Text.lowerChar c ++ snakeFrom false rest
    else c :: snakeFrom (Text.isLower c || Text.isDigit c) rest

/-- `AddTwo` becomes `add_two`. -/
def snakeCase (name : String) : String := String.ofList (snakeFrom false name.toList)

def register (filters : Bindings Filter) (name : String) (filter : Filter) : Bindings Filter :=
  filters.insert (snakeCase name) filter

def apply (filters : Bindings Filter) (name : String) (input : Value) (args : List Value) :
    Eval Value :=
  match filters.get? name with
  | some filter => filter input args
  | none => throw (.render s!"unknown filter '{name}'")

/-! ### Arguments -/

def arg (filter : String) (args : List Value) (index : Nat) : Eval Value :=
  match args[index]? with
  | some v => return v
  | none =>
    throw (.argument s!"filter '{filter}' expects at least {index + 1} argument(s)")

def number (filter : String) (v : Value) : Eval Number := do
  match ← v.readNumber? with
  | some n => return n
  | none =>
    let text ← v.readPlain
    throw (.render s!"{filter}: '{text}' is not a number")

end Filter

end Liquid
