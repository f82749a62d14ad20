import Liquid.Render.Basic

/-!
# Render options

The deadline of a render is given as a moment, as a span from its start, or both; the earlier
moment counts. Moments are milliseconds on the clock of the caller, which is read when a render
begins and again at each check of the deadline: time passes while a template is rendered.
-/

namespace Liquid

/-- What the clock of the caller shows, each time that it is read. It is never put back. -/
structure Clock where
  reading : Nat → Nat
  forward (i : Nat) : reading i ≤ reading (i + 1)

/-- A clock that stands still. -/
def Clock.stopped (moment : Nat) : Clock := ⟨fun _ => moment, fun _ => Nat.le_refl moment⟩

structure Options where
  /-- Names for this render only; they win over the data. -/
  assigns : Bindings Value
  format : Format
  mode : ErrorMode
  deadline : Option Nat
  timeout : Option Nat

namespace Options

def plain : Options := ⟨Bindings.empty, Format.plain, .inline, none, none⟩

instance : Inhabited Options := ⟨plain⟩

def deadlineAt (o : Options) (now : Nat) : Option Nat :=
  match o.deadline, o.timeout with
  | some moment, some span => some (min moment (now + span))
  | some moment, none => some moment
  | none, some span => some (now + span)
  | none, none => none

/-- Whether the deadline has passed at a check, for a render that begins with the first reading. It
is the first moment that is too late. Without one, the clock is not read again. -/
def passed (o : Options) (clock : Clock) : Option (Nat → Bool) :=
  (o.deadlineAt (clock.reading 0)).map fun moment check => moment ≤ clock.reading (check + 1)

end Options

end Liquid
