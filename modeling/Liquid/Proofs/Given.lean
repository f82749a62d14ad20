import Liquid.Proofs.Pointwise
import Liquid.Proofs.Steps

/-!
# What a render is given

The values that names stand for when a render begins come from four places: the globals of the
environment, the data, the assigns of this render, and the store. Laws that compare renders of one
template with other such values put all four together.
-/

namespace Liquid

/-- The same setting with other globals and other data. -/
def Setting.withNames (σ : Setting) (globals data : Bindings Value) : Setting :=
  { σ with env := { σ.env with globals }, data }

@[simp] theorem Setting.withNames_mode (σ : Setting) (globals data : Bindings Value) :
    (σ.withNames globals data).mode = σ.mode := rfl

@[simp] theorem Setting.withNames_deadline (σ : Setting) (globals data : Bindings Value) :
    (σ.withNames globals data).deadline = σ.deadline := rfl

namespace Template

/-- What names stand for when a render begins. -/
structure Given where
  globals : Bindings Value
  data : Bindings Value
  assigns : Bindings Value
  store : Bindings Value

/-- The same names everywhere, with related values. -/
structure Given.Pointwise (R : String → Value → Value → Prop) (g g' : Given) : Prop where
  globals : Bindings.Pointwise R g.globals g'.globals
  data : Bindings.Pointwise R g.data g'.data
  assigns : Bindings.Pointwise R g.assigns g'.assigns
  store : Bindings.Pointwise R g.store g'.store

/-- A render with these names in place of those of the template and its options. -/
def renderWith (t : Template) (g : Given) (o : Options) (clock : Clock) (heap : Heap) :
    Except Error Rendered × Bindings Value × Heap :=
  let engine := { t.engine with env := { t.engine.env with globals := g.globals } }
  render { t with engine } (.hash g.data.entries) { o with assigns := g.assigns } clock g.store heap

/-- The setting of such a render. -/
def settingWith (t : Template) (g : Given) (o : Options) (clock : Clock) : Setting where
  env := { t.engine.env with globals := g.globals }
  data := g.data.overlay g.assigns
  mode := o.mode
  format := o.format
  deadline := o.passed clock
  persists := !t.isolated

theorem renderWith_eq (t : Template) (g : Given) (o : Options) (clock : Clock) (heap : Heap) :
    t.renderWith g o clock heap =
      result (renderAll t.document.nodes (t.settingWith g o clock) (start g.store heap)) := by
  unfold renderWith
  exact render_of_setting g.store rfl

end Template

end Liquid
