import Liquid.Number.Written
import Liquid.Value.Basic

/-!
# The text of a value

Nil and host objects write nothing, arrays their items one after the other, hashes their entries
between braces. Writing appends to what is already written, so that long arrays are walked in one
pass.
-/

namespace Liquid

/-- How values are written. -/
structure Format where
  decimalSeparator : Char
deriving Repr, DecidableEq, Inhabited

namespace Format

/-- Numbers with a point. -/
def plain : Format := ⟨'.'⟩

end Format

namespace Value

mutual

def write (format : Format) (out : String) : Value → String
  | .nil => out
  | .object _ => out
  | .bool b => out ++ if b then "true" else "false"
  | .int i => out ++ intText i
  | .float f => out ++ Double.text format.decimalSeparator f
  | .str s => out ++ s
  | .array items => writeItems format out items
  | .hash entries => (writeEntries format (out.push '\x7b') entries).push '\x7d'
  | .lazy _ content => content.write format out

def writeItems (format : Format) (out : String) : List Value → String
  | [] => out
  | v :: rest => writeItems format (v.write format out) rest

/-- Commas stand between the entries. -/
def writeEntries (format : Format) (out : String) : List (String × Value) → String
  | [] => out
  | [(key, v)] => v.write format (out ++ key ++ ": ")
  | (key, v) :: rest => writeEntries format (v.write format (out ++ key ++ ": ") ++ ", ") rest

end

def text (format : Format) (v : Value) : String := v.write format ""

/-- The text with a point in numbers. -/
def plain (v : Value) : String := v.text Format.plain

end Value

end Liquid
