import Liquid.Text.Blank
import Liquid.Token.Scan

/-!
# Trim marks

A trim mark works on the text beside it. `-` after an opening delimiter takes away the spaces and
tabs that end the text before; `-` in front of a closing delimiter takes away the spaces and tabs
that begin the text after, and then at most one line break. Only text changes, and each text
depends on the marks of its two neighbours alone, so one walk with the mark of the token before
is enough.
-/

namespace Liquid

namespace Token

def isSpaceOrTab (c : Char) : Bool := c == ' ' || c == '\t'

def dropLineBreak : List Char → List Char
  | '\r' :: '\n' :: rest => rest
  | '\n' :: rest => rest
  | s => s

def trimStart (s : List Char) : List Char := dropLineBreak (s.dropWhile isSpaceOrTab)

def trimEnd (s : List Char) : List Char := Text.dropTail isSpaceOrTab s

/-- A text between a token with or without a mark at its end and one with or without a mark at
its start. -/
def trimmed (startMarked endMarked : Bool) (t : Token) : Token :=
  match t.kind with
  | .text =>
    let s := t.content.toList
    let s := if startMarked then trimStart s else s
    let s := if endMarked then trimEnd s else s
    { t with content := String.ofList s }
  | _ => t

/-- Whether the first of the tokens trims the text before it. -/
def marksBefore : List Token → Bool
  | t :: _ => t.trimBefore
  | [] => false

def trimAll : (startMarked : Bool) → List Token → List Token
  | _, [] => []
  | startMarked, t :: rest =>
    trimmed startMarked (marksBefore rest) t :: trimAll t.trimAfter rest

/-- The tokens of a source, with the trim marks carried out. -/
def tokenize (source : String) : List Token := trimAll false (scan source)

end Token

end Liquid
