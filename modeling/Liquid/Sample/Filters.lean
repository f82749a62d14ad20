import Liquid.Environment
import Liquid.Filter.Text
import Liquid.Sample.Objects

/-!
# Sample filters and transformers
-/

namespace Liquid

namespace Sample

/-! ### Filters -/

def addTwo : Filter := fun input _ => do
  return .int (((← input.readInt?).getD 0) + 2)

def shout : Filter := Filter.onText fun s => upperText s ++ "!"

def typeOf : Filter := fun input _ => do return .str (← input.read).typeName

def allArgs : Filter := fun input args => return .array (input :: args)

def countArgs : Filter := fun _ args => return .ofNat args.length

def noValue : Filter := fun _ _ => return .nil

def failing : Filter := fun input _ => do throw (.render ("boom " ++ (← input.readPlain)))

def refusing : Filter := fun input _ => do throw (.argument ("bad " ++ (← input.readPlain)))

def toObject (path : String) : Filter := fun input _ => do
  let text ← input.readPlain
  (Live.draw (object path .foo [("text", .str text)]) : Live Value)

def filter? (path name : String) : Option Filter :=
  match name with
  | "add_two" => some addTwo
  | "shout" => some shout
  | "type" => some typeOf
  | "args" => some allArgs
  | "argc" => some countArgs
  | "nil" => some noValue
  | "render_error" => some failing
  | "argument_error" => some refusing
  | "foo" => some (toObject path)
  | _ => none

/-! ### Transformers -/

def winFail : Transformer := fun v => do
  return if (← v.read).isTruthy then "Win" else "Fail"

def markupChar (c : Char) : List Char :=
  if c == '&' then "&amp;".toList
  else if c == '<' then "&lt;".toList
  else if c == '>' then "&gt;".toList
  else [c]

/-- A text with the characters of markup as entities, and nothing for other values. -/
def html : Transformer := fun v => do
  return String.ofList (((← v.read).str?.getD "").toList.flatMap markupChar)

def wrap : Transformer := fun v => do
  let type := (← v.read).typeName
  return "<" ++ type ++ ":" ++ (← v.readPlain) ++ ">"

def transformer? (name : String) : Option Transformer :=
  match name with
  | "win_fail" => some winFail
  | "html" => some html
  | "wrap" => some wrap
  | _ => none

end Sample

end Liquid
