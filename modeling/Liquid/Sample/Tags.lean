import Liquid.Document.Parse
import Liquid.Tag.Standard
import Liquid.Text.Case

/-!
# Sample tags

Tags that use what the engine offers to tags of the host: expressions, frames, errors, blocks with
an end tag of their own choice, and rules about the tags beside them.
-/

namespace Liquid

namespace Sample

/-- A tag that stands anywhere and only does something when it is rendered. -/
def acting (run : Header → Render Unit) : TagReader := fun _ header =>
  .ok ⟨.leaf (.action do run header; return .normal), .anywhere⟩

/-! ### Expressions -/

def greet : TagReader := fun _ header =>
  match Expr.parse header.markup with
  | .error e => .error (Fault.ofMarkup e header.markup)
  | .ok e =>
    .ok ⟨.leaf (.action do
      let v ← Render.eval fun env names => e.resolve env names
      Render.write "Hello, "
      Render.writeValue v
      return .normal), .anywhere⟩

/-- Binds in the innermost frame what stands behind the first `=`. -/
def setValue : TagReader := fun _ header =>
  let markup := header.markup.toList
  let name := String.ofList (Text.trim (markup.takeWhile fun c => c != '='))
  match Expr.parse (String.ofList ((markup.dropWhile fun c => c != '=').drop 1)) with
  | .error e => .error (Fault.ofMarkup e header.markup)
  | .ok e =>
    .ok ⟨.leaf (.action do
      Render.set name (← Render.eval fun env names => e.resolve env names)
      return .normal), .anywhere⟩

/-! ### Blocks -/

/-- Writes its nodes in upper case, up to the tag `done`. -/
def shouting : TagReader := fun _ _ =>
  .ok ⟨.block "shout" "done" (.block (Render.captured upperText)), .anywhere⟩

def bracketed (x : Render Flow) : Render Flow := do
  Render.write "["
  let flow ← Render.stack x
  Render.write "]"
  return flow

/-- Writes its nodes, with a frame of their own, between brackets. -/
def brackets : TagReader := fun _ header =>
  .ok ⟨.block header.name ("end" ++ header.name) (.block bracketed), .anywhere⟩

/-! ### Rules -/

/-- No tag of this name before. -/
def onceOnly (name : String) : SiblingRule := fun before =>
  if before.contains (some name) then some s!"'{name}' may only appear once" else none

def once : TagReader := fun _ header =>
  .ok ⟨.leaf (.action do Render.write "1"; return .normal), onceOnly header.name⟩

/-! ### Inspection and failure -/

def showDepth : TagReader := acting fun _ => do
  Render.write (toString (← get).scopes.depth)

def showErrors : TagReader := acting fun _ => do
  Render.write (toString (← get).errors.size)

def fail : TagReader := acting fun header => do
  Render.write "(partial)"
  throw (.render header.markup)

def failFatally : TagReader := acting fun header => throw (.argument header.markup)

def failLate : TagReader := acting fun header =>
  throw (.malformed ⟨.rule header.markup, "late", header.span⟩)

def echo : TagReader := fun template header =>
  .ok ⟨.leaf (.action do
    let place := toString header.span.offset ++ "+" ++ toString header.span.length
    Render.write ("[" ++ "|".intercalate [header.name, header.markup, place, template] ++ "]")
    return .normal), .anywhere⟩

def tag? (name : String) : Option TagReader :=
  match name with
  | "hello" => some greet
  | "shout" => some shouting
  | "once" => some once
  | "block" => some brackets
  | "set" => some setValue
  | "depth" => some showDepth
  | "errors" => some showErrors
  | "fail" => some fail
  | "fatal" => some failFatally
  | "late" => some failLate
  | "echo" => some echo
  | other => Tag.standard.get? other

end Sample

end Liquid
