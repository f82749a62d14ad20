import Liquid.Document.Parse
import Liquid.Render.Nodes
import Liquid.Template.Options

/-!
# Templates

A template is parsed once and rendered any number of times. From one render to the next it keeps
only its assigns, which are not part of it: they are handed over, and given back as the render
left them, so that several templates can share them.
-/

namespace Liquid

/-- Tags to parse with and the environment to render in. -/
structure Engine where
  tags : Bindings TagReader
  env : Environment

structure Template where
  engine : Engine
  name : String
  source : String
  document : Document
  /-- The assigns of a render do not last. -/
  isolated : Bool

/-- The output of a render and the errors that were written into it. -/
structure Rendered where
  output : String
  errors : Array Error
deriving Repr, DecidableEq

namespace Template

def parse (engine : Engine) (name source : String) : Except SyntaxError Template := do
  return ⟨engine, name, source, ← Document.parse engine.tags name source, false⟩

/-- The template with another source, under the same name and engine. -/
def reparse (t : Template) (source : String) : Except SyntaxError Template := do
  return { t with
    source
    document := ← Document.parse t.engine.tags t.name source }

def isolate (t : Template) : Template := { t with isolated := true }

/-! ### Rendering -/

/-- The names in the data, which has to be a hash or nil. -/
def dataBindings (data : Value) : Eval (Bindings Value) := do
  match data with
  | .hash entries => return ⟨entries⟩
  | .nil => return Bindings.empty
  | other =>
    let type := (← other.read).typeName
    throw (.argument s!"data context must be a hash, got {type}")

/-- What is fixed for a render that begins when the clock is read first. -/
def setting (t : Template) (data : Value) (o : Options) (clock : Clock) : Eval Setting := do
  return {
    env := t.engine.env
    data := (← dataBindings data).overlay o.assigns
    mode := o.mode
    format := o.format
    deadline := o.passed clock
    persists := !t.isolated }

def start (store : Bindings Value) (heap : Heap) : Progress :=
  { scopes := Scopes.new, store, errors := #[], out := "", heap, checks := 0 }

/-- Runs a step as the whole of a render: its outcome, and the progress at its end. -/
def run {α : Type} (t : Template) (data : Value) (o : Options) (clock : Clock)
    (store : Bindings Value) (heap : Heap) (x : Render α) : Except Error α × Progress :=
  match (t.setting data o clock).run heap with
  | (.ok setting, heap) => x setting (start store heap)
  | (.error e, heap) => (.error e, start store heap)

/-- Renders with the assigns of earlier renders, and gives back those for later ones. -/
def render (t : Template) (data : Value) (o : Options) (clock : Clock) (store : Bindings Value)
    (heap : Heap) : Except Error Rendered × Bindings Value × Heap :=
  let (result, progress) := t.run data o clock store heap (renderAll t.document.nodes)
  (result.map fun _ => ⟨progress.out, progress.errors⟩, progress.store, progress.heap)

end Template

end Liquid
