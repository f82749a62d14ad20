import Liquid.Evaluate
import Liquid.Scope

/-!
# Rendering

What stays fixed during one render, what changes, and the steps that everything rendered is made
of. A name is looked up in the scopes from the inside out, then in the data, then among the
assigns that last from render to render, then among the globals. A failed step leaves behind what
it did before it failed; in particular the output keeps what was written.
-/

namespace Liquid

inductive ErrorMode where
  /-- The message is written in place of what failed. -/
  | inline
  /-- The first error ends the render. -/
  | strict
deriving Repr, DecidableEq, Inhabited

structure Setting where
  env : Environment
  /-- The data and the assigns given for this render. -/
  data : Bindings Value
  mode : ErrorMode
  format : Format
  /-- Whether the deadline has passed at a check, told by the number of checks before it. -/
  deadline : Option (Nat → Bool)
  /-- Assigns last longer than this render. -/
  persists : Bool

structure Progress where
  scopes : Scopes
  /-- The assigns that last from render to render. -/
  store : Bindings Value
  errors : Array Error
  out : String
  heap : Heap
  /-- How often the deadline was checked. -/
  checks : Nat

namespace Setting

/-- What a check of the deadline finds now. -/
def isLate (s : Setting) (p : Progress) : Bool := s.deadline.any fun passed => passed p.checks

/-- The progress behind a check. Without a deadline there is nothing to check. -/
def checked (s : Setting) (p : Progress) : Progress :=
  { p with checks := if s.deadline.isSome then p.checks + 1 else p.checks }

end Setting

/-- How a node ends: as usual, or by leaving the loop or its current round. -/
inductive Flow where
  | normal
  | stop
  | skip
deriving Repr, DecidableEq, Inhabited

abbrev Render (α : Type) := ReaderT Setting (ExceptT Error (StateM Progress)) α

namespace Render

variable {α : Type}

/-! ### Names -/

/-- What a name stands for; nil if it is bound nowhere. -/
def valueOf (setting : Setting) (progress : Progress) (name : String) : Value :=
  match progress.scopes.get? name with
  | some v => v
  | none =>
    match setting.data.get? name with
    | some v => v
    | none =>
      match progress.store.get? name with
      | some v => v
      | none => (setting.env.globals.get? name).getD .nil

def eval (f : Environment → (String → Value) → Eval α) : Render α := fun setting progress =>
  let (result, heap) := (f setting.env (valueOf setting progress)).run progress.heap
  (result, { progress with heap })

def get (name : String) : Render Value := eval fun _ names => do (names name).read

def set (name : String) (v : Value) : Render Unit :=
  modify fun p => { p with scopes := p.scopes.set name v }

/-- Binds in the outermost frame and, if assigns last, for the renders to come. -/
def assign (name : String) (v : Value) : Render Unit := do
  let persists := (← read).persists
  modify fun p =>
    { p with
      scopes := p.scopes.assign name v
      store := if persists then p.store.insert name v else p.store }

def push : Render Unit := modify fun p => { p with scopes := p.scopes.push }

def pop : Render Unit := modify fun p => { p with scopes := p.scopes.pop }

/-- A step in a frame of its own, which is popped however the step ends. -/
def stack (x : Render α) : Render α := fun setting progress =>
  let (result, after) := x setting { progress with scopes := progress.scopes.push }
  (result, { after with scopes := after.scopes.pop })

/-! ### Output -/

def write (s : String) : Render Unit := modify fun p => { p with out := p.out ++ s }

/-- Writes a value the way its kind is written. -/
def writeValue (v : Value) : Render Unit := do
  let format := (← read).format
  write (← eval fun env _ => env.output format v)

/-- A step with an output of its own. What it wrote is mapped and appended if it succeeds and lost
if it fails. -/
def captured (f : String → String) (x : Render α) : Render α := fun setting progress =>
  let (result, after) := x setting { progress with out := "" }
  match result with
  | .ok a => (.ok a, { after with out := progress.out ++ f after.out })
  | .error e => (.error e, { after with out := progress.out })

/-! ### Errors -/

/-- Fails once the deadline has passed. Between two checks it may do so. -/
def checkDeadline : Render Unit := fun setting progress =>
  (if setting.isLate progress then .error .timeout else .ok (), setting.checked progress)

/-- The message of an error as it is written in place of what failed. -/
def inlineText (e : Error) : String :=
  match e with
  | .malformed _ => "Liquid syntax error: " ++ e.message
  | _ => "Liquid error: " ++ e.message

def Progress.report (p : Progress) (e : Error) : Progress :=
  { p with
    out := p.out ++ inlineText e
    errors := p.errors.push e }

/-- Goes on after an error that is neither fatal nor strictly taken. -/
def recover (x : Render Flow) : Render Flow := fun setting progress =>
  match x setting progress with
  | (.ok flow, after) => (.ok flow, after)
  | (.error e, after) =>
    if e.isFatal || setting.mode = .strict then (.error e, after)
    else (.ok .normal, Progress.report after e)

end Render

end Liquid
