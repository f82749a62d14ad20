import Liquid.Filter.Basic
import Liquid.Host.Member

/-!
# Environments

What a template finds when it renders: filters, adapters, replacements for the text of whole kinds
of values, and variables that every template sees. Tags are no part of it, because they are done
with when a template has been parsed.
-/

namespace Liquid

/-- Writes all values of one kind. -/
abbrev Transformer := Value → Live String

structure Environment where
  filters : Bindings Filter
  registry : Registry
  transformers : ValueKind → Option Transformer
  globals : Bindings Value

namespace Environment

def setTransformer (env : Environment) (kind : ValueKind) (f : Transformer) : Environment :=
  { env with transformers := fun k => if k = kind then some f else env.transformers k }

/-- The text that is written for a value. -/
def output (env : Environment) (format : Format) (v : Value) : Live String := do
  let v ← env.registry.expose v
  match env.transformers (← v.read).kind with
  | some transform => transform v
  | none => v.readText format

end Environment

end Liquid
