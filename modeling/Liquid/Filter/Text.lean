import Liquid.Filter.Basic

/-!
# Text filters

All of them work on the text of their input, whatever its kind.
-/

namespace Liquid

/-- A text longer than `length` is cut so that it has this length with the ellipsis, which is
never cut itself. -/
def truncateText (length : Nat) (ellipsis s : String) : String :=
  if s.length ≤ length then s
  else String.ofList (s.toList.take (length - ellipsis.length)) ++ ellipsis

def escapeChar (c : Char) : List Char :=
  if c == '&' then "&amp;".toList
  else if c == '<' then "&lt;".toList
  else if c == '>' then "&gt;".toList
  else if c == '\x22' then "&quot;".toList
  else if c == '\x27' then "&#39;".toList
  else [c]

/-- The characters that HTML gives a meaning, as entities. -/
def escapeText (s : String) : String := String.ofList (s.toList.flatMap escapeChar)

/-- The characters of a text as texts. -/
def charTexts (s : String) : List String := s.toList.map fun c => String.ofList [c]

namespace Filter

/-- A filter that maps the text of its input. -/
def onText (f : String → String) : Filter := fun input _ => do
  return .str (f (← input.readPlain))

def upcase : Filter := onText upperText

def downcase : Filter := onText lowerText

def capitalize : Filter := onText capitalizeText

def strip : Filter := onText trimText

def lstrip : Filter := onText fun s => String.ofList (Text.dropBlank s.toList)

def rstrip : Filter := onText fun s => String.ofList (Text.dropBlankTail s.toList)

def escape : Filter := onText escapeText

def append : Filter := fun input args => do
  let suffix ← arg "append" args 0
  let text ← input.readPlain
  return .str (text ++ (← suffix.readPlain))

def prepend : Filter := fun input args => do
  let front ← (← arg "prepend" args 0).readPlain
  return .str (front ++ (← input.readPlain))

/-- An empty pattern splits between all characters. -/
def split : Filter := fun input args => do
  let pattern ← (← arg "split" args 0).readPlain
  let text ← input.readPlain
  let parts := if pattern.isEmpty then charTexts text else splitText text pattern
  return .array (parts.map .str)

/-- An empty pattern is found nowhere. -/
def replaced (pattern replacement s : String) : String :=
  if pattern.isEmpty then s else replaceText s pattern replacement

def replace : Filter := fun input args => do
  let pattern ← (← arg "replace" args 0).readPlain
  let replacement ← (← arg "replace" args 1).readPlain
  return .str (replaced pattern replacement (← input.readPlain))

def remove : Filter := fun input args => do
  let pattern ← (← arg "remove" args 0).readPlain
  return .str (replaced pattern "" (← input.readPlain))

/-- The length to cut at: 50 unless given, and nothing for a negative one. -/
def truncateLength (args : List Value) : Eval Nat :=
  match args[0]? with
  | none => return 50
  | some n => do
    match ← n.readInt? with
    | some i => return i.toInt.toNat
    | none =>
      let text ← n.readPlain
      throw (.render s!"truncate: '{text}' is not a number")

def truncate : Filter := fun input args => do
  let length ← truncateLength args
  let ellipsis ←
    match args[1]? with
    | some e => e.readPlain
    | none => pure "..."
  return .str (truncateText length ellipsis (← input.readPlain))

end Filter

end Liquid
