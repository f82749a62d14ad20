import Liquid.Config.Kdl.Space
import Liquid.Number.Reading

/-!
# Strings in KDL documents

A string is a bare word, a quoted text, or a quoted text between number signs, in which a backslash
is a character like others. Three quotes and a line break open a text over several lines: the white
space in front of its closing quotes is taken away from each of its lines.
-/

namespace Liquid

namespace Kdl

/-! ### Words -/

def isWordChar (c : Char) : Bool :=
  !isSpace c && !isNewline c && !isBarred c && !"\\/()\x7b\x7d[];=\"#".toList.contains c

/-- A word that begins as a number does is none. -/
def looksNumeric (word : List Char) : Bool :=
  match (readSign word).2 with
  | '.' :: c :: _ => Text.isDigit c
  | c :: _ => Text.isDigit c
  | [] => false

/-- Values that are written with a number sign in front, so that their bare names stay free of
doubt. -/
def reservedWords : List String := ["true", "false", "null", "inf", "-inf", "nan"]

def word? (s : List Char) : Option (String × List Char) :=
  let word := s.takeWhile isWordChar
  if word.isEmpty || looksNumeric word || reservedWords.contains (String.ofList word) then none
  else some (String.ofList word, s.dropWhile isWordChar)

/-! ### Characters of quoted texts -/

/-- A character of a quoted text. Only one that stands for itself can break a line or indent it. -/
structure Mark where
  char : Char
  escaped : Bool
deriving Repr, DecidableEq

namespace Mark

def breaksLine (m : Mark) : Bool := !m.escaped && isNewline m.char

def indents (m : Mark) : Bool := !m.escaped && isSpace m.char

end Mark

/-- The value of a digit in bases up to sixteen, and sixteen for all that is none. -/
def digitValue (c : Char) : Nat :=
  let c := asciiLower c
  if Text.isDigit c then c.toNat - 48
  else if 'a' ≤ c && c ≤ 'f' then c.toNat - 87
  else 16

def valueInBase (base : Nat) (digits : List Char) : Nat :=
  digits.foldl (fun n c => base * n + digitValue c) 0

/-- The character whose number stands in braces, in up to six digits. -/
def numbered? (s : List Char) : Option (Char × List Char) :=
  let digits := s.takeWhile fun c => digitValue c < 16
  let n := valueInBase 16 digits
  match s.dropWhile fun c => digitValue c < 16 with
  | '\x7d' :: rest =>
    if digits.isEmpty || 6 < digits.length || !decide n.isValidChar then none
    else some (Char.ofNat n, rest)
  | _ => none

/-- The character that stands behind a backslash, and the rest. -/
def escaped? : List Char → Option (Char × List Char)
  | 'n' :: rest => some ('\n', rest)
  | 'r' :: rest => some ('\r', rest)
  | 't' :: rest => some ('\t', rest)
  | 'b' :: rest => some ('\x08', rest)
  | 'f' :: rest => some ('\x0C', rest)
  | 's' :: rest => some (' ', rest)
  | '\\' :: rest => some ('\\', rest)
  | '\x22' :: rest => some ('\x22', rest)
  | 'u' :: '\x7b' :: rest => numbered? rest
  | _ => none

/-- The marks before the closing delimiter, and the rest after it. A backslash takes away all white
space behind it. Line breaks of every kind are read as line feeds. -/
def marksFrom? (closing : List Char) (escapes : Bool) :
    (steps : Nat) → List Char → Option (List Mark × List Char)
  | 0, _ => none
  | steps + 1, s =>
    let continued (m : Mark) (rest : List Char) :=
      (marksFrom? closing escapes steps rest).map fun (marks, after) => (m :: marks, after)
    if closing.isPrefixOf s then some ([], s.drop closing.length)
    else
      match afterNewline? s, s with
      | some rest, _ => continued ⟨'\n', false⟩ rest
      | none, [] => none
      | none, c :: rest =>
        if escapes && c == '\\' then
          match rest with
          | d :: _ =>
            if isSpace d || isNewline d then
              marksFrom? closing escapes steps (rest.dropWhile fun c => isSpace c || isNewline c)
            else (escaped? rest).bind fun (c, after) => continued ⟨c, true⟩ after
          | [] => none
        else if isBarred c then none
        else continued ⟨c, false⟩ rest

def marks? (closing : List Char) (escapes : Bool) (s : List Char) :
    Option (List Mark × List Char) :=
  marksFrom? closing escapes (s.length + 1) s

/-! ### Lines -/

/-- A text in one line. -/
def oneLine? (marks : List Mark) : Option (List Mark) :=
  if marks.any Mark.breaksLine then none else some marks

/-- The first line and the others. -/
def lines : List Mark → List Mark × List (List Mark)
  | [] => ([], [])
  | m :: rest =>
    let (first, more) := lines rest
    if m.breaksLine then ([], first :: more) else (m :: first, more)

/-- A line without the indent. A line that is nothing but white space is empty, whatever its
indent. -/
def unindented? (indent line : List Mark) : Option (List Mark) :=
  if line.all Mark.indents then some []
  else if indent.isPrefixOf line then some (line.drop indent.length)
  else none

/-- A text over several lines; the last one has to be an indent and is the one that is taken away
from the others. -/
def manyLines? (marks : List Mark) : Option (List Mark) :=
  let (first, more) := lines marks
  match (first :: more).reverse with
  | [] => none
  | indent :: body =>
    if indent.all Mark.indents then
      (body.reverse.mapM (unindented? indent)).map (List.intercalate [⟨'\n', false⟩])
    else none

/-! ### Quoted texts -/

/-- A text that is opened by three quotes and a line break, or else by one quote, between as many
number signs on either side. -/
def quotedText? (signs : List Char) (escapes : Bool) (s : List Char) :
    Option (String × List Char) :=
  let text (lay? : List Mark → Option (List Mark)) (quotes rest : List Char) :=
    (marks? (quotes ++ signs) escapes rest).bind fun (marks, after) =>
      (lay? marks).map fun laid => (String.ofList (laid.map Mark.char), after)
  match s with
  | '\x22' :: rest =>
    match rest with
    | '\x22' :: '\x22' :: opened =>
      match afterNewline? opened with
      | some body => text manyLines? ['\x22', '\x22', '\x22'] body
      | none => if escapes then none else text oneLine? ['\x22'] rest
    | _ => text oneLine? ['\x22'] rest
  | _ => none

def string? (s : List Char) : Option (String × List Char) :=
  match s with
  | '\x22' :: _ => quotedText? [] true s
  | '#' :: _ =>
    let isSign (c : Char) := c == '#'
    quotedText? (s.takeWhile isSign) false (s.dropWhile isSign)
  | _ => word? s

end Kdl

end Liquid
