import Liquid.Config.Kdl.Document
import Liquid.Template.Options

/-!
# Configuration

The defaults of an engine, read from a document such as

    render error-mode="strict" timeout-ms=250 decimal-separator=","

and checked when options are made from them.
-/

namespace Liquid

structure Config where
  errorMode : Option String
  timeoutMs : Option Nat
  decimalSeparator : Option String
deriving Repr, DecidableEq

namespace Config

def plain : Config := ⟨none, none, none⟩

/-- Digits, which a plus may precede, for a number of 64 bits without a sign. -/
def readMillis? (s : List Char) : Option Nat :=
  let digits :=
    match s with
    | '+' :: rest => rest
    | rest => rest
  (allDigits? digits).filter (· < UInt64.size)

/-- A time limit in milliseconds; a whole number is taken modulo 2 ^ 64. -/
def millis? : Kdl.Datum → Option (Option Nat)
  | .int i => some (some (i % Int.ofNat UInt64.size).toNat)
  | .str s => (readMillis? s.toList).map some
  | .null => some none
  | _ => none

def text? : Kdl.Datum → Option (Option String)
  | .str s => some (some s)
  | .null => some none
  | _ => none

/-- One more entry of the `render` node. Of two properties of one name the later one counts, but
both have to be in order; one that is not known says nothing. -/
def withEntry? (config : Config) : Kdl.Entry → Option Config
  | .argument _ => none
  | .property "error-mode" d => (text? d).map fun mode => { config with errorMode := mode }
  | .property "timeout-ms" d => (millis? d).map fun limit => { config with timeoutMs := limit }
  | .property "decimal-separator" d =>
    (text? d).map fun mark => { config with decimalSeparator := mark }
  | .property _ _ => some config

def ofNode? (config : Config) (node : Kdl.Node) : Option Config :=
  if node.name = "render" then node.entries.foldlM withEntry? config else some config

def ofNodes? (nodes : List Kdl.Node) : Option Config := nodes.foldlM ofNode? plain

def parse (source : String) : Except Error Config :=
  match (Kdl.parse? source).bind ofNodes? with
  | some config => .ok config
  | none => .error (.argument "invalid engine configuration")

/-! ### Options -/

def mode (config : Config) : Except Error ErrorMode :=
  match config.errorMode with
  | none => .ok .inline
  | some "inline" => .ok .inline
  | some "strict" => .ok .strict
  | some other =>
    .error (.argument s!"unknown error mode '{other}', expected 'inline' or 'strict'")

def format (config : Config) : Except Error Format :=
  match config.decimalSeparator with
  | none => .ok Format.plain
  | some s =>
    match s.toList with
    | [c] => .ok ⟨c⟩
    | _ => .error (.argument s!"decimal separator must be one character, got '{s}'")

end Config

def Options.ofConfig (config : Config) : Except Error Options := do
  let mode ← config.mode
  let format ← config.format
  return { Options.plain with
    mode
    format
    timeout := config.timeoutMs }

end Liquid
