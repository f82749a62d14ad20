import Liquid.Text.Blank
import Liquid.Text.Letter

/-!
# Names, words and quotes

The pieces that all markup is made of. Each reader takes the text from where it stands and gives
back what it read with the text that follows.
-/

namespace Liquid

inductive MarkupError where
  | trailing (rest : String)
  | unexpectedCharacter (c : Char)
  | expectedExpression
  | expectedFilterName
  | unterminatedString
  | expectedDigits
  | invalidNumber (text : String)
  | expectedRangeDots
  | unclosedRange
  | expectedField
  | unclosedIndex
deriving Repr, DecidableEq

def MarkupError.message : MarkupError → String
  | .trailing rest => s!"unexpected '{rest}'"
  | .unexpectedCharacter c => s!"unexpected character '{c}'"
  | .expectedExpression => "expected expression"
  | .expectedFilterName => "expected filter name"
  | .unterminatedString => "unterminated string"
  | .expectedDigits => "expected digits after '-'"
  | .invalidNumber text => s!"invalid number '{text}'"
  | .expectedRangeDots => "expected '..' in range"
  | .unclosedRange => "expected ')' to close range"
  | .expectedField => "expected name after '.'"
  | .unclosedIndex => "expected ']'"

namespace Markup

open Text

def isNameStart (c : Char) : Bool := isLetter c || c == '_'

def isNameChar (c : Char) : Bool := isAlphanumeric c || c == '_' || c == '-'

def isQuote (c : Char) : Bool := c == '\x27' || c == '\x22'

/-- A name begins with a letter or underscore and may end with one question mark. -/
def name? : List Char → Option (String × List Char)
  | [] => none
  | c :: rest =>
    if isNameStart c then
      let body := (c :: rest).takeWhile isNameChar
      match (c :: rest).dropWhile isNameChar with
      | '?' :: after => some (String.ofList (body ++ ['?']), after)
      | after => some (String.ofList body, after)
    else none

/-- The text after a given word, which has to be a whole name. -/
def word? (word : String) (s : List Char) : Option (List Char) :=
  match name? s with
  | some (found, rest) => if found == word then some rest else none
  | none => none

/-- The text up to a quote character, and what follows it. -/
def quoted? (quote : Char) : List Char → Option (List Char × List Char)
  | [] => none
  | c :: rest =>
    if c == quote then some ([], rest)
    else (quoted? quote rest).map fun (inside, after) => (c :: inside, after)

end Markup

end Liquid
