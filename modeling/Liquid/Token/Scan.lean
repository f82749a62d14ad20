import Liquid.Token.Basic

/-!
# Scanning a template

Text runs to the next opening delimiter. Markup runs from its opening delimiter, with the trim
mark that may follow, to the first closing delimiter of its kind; without one it runs to the end
of the source and is not terminated. Scanning therefore never fails. Every token takes at least
one character, so as many steps as the source has characters are enough.
-/

namespace Liquid

namespace Token

/-- The kind of markup that an opening delimiter at the front begins. -/
def opening? : List Char → Option TokenKind
  | '{' :: '%' :: _ => some .tag
  | '{' :: '{' :: _ => some .variable
  | _ => none

/-- The text in front of the first opening delimiter, and the rest. -/
def splitText : List Char → List Char × List Char
  | [] => ([], [])
  | c :: rest =>
    if (opening? (c :: rest)).isSome then ([], c :: rest)
    else
      let (text, after) := splitText rest
      (c :: text, after)

/-- What stands in front of the first closing delimiter, `mark` and a brace, and what follows. -/
def splitClosing? (mark : Char) : List Char → Option (List Char × List Char)
  | [] => none
  | c :: rest =>
    if c == mark && rest.head? == some '}' then some ([], rest.tail)
    else (splitClosing? mark rest).map fun (inside, after) => (c :: inside, after)

/-- The first character of the closing delimiter; the second is a brace. -/
def closingMark : TokenKind → Char
  | .variable => '}'
  | _ => '%'

def text (offset : Nat) (s : List Char) : Token :=
  { kind := .text
    content := String.ofList s
    raw := String.ofList s
    span := ⟨offset, byteLength s⟩
    terminated := true
    trimBefore := false
    trimAfter := false }

/-- The markup that opens at the front of the source, and the rest. -/
def markup (kind : TokenKind) (offset : Nat) (source : List Char) : Token × List Char :=
  let trimBefore := (source.drop 2).head? == some '-'
  let opening := source.take (if trimBefore then 3 else 2)
  let inner := source.drop (if trimBefore then 3 else 2)
  match splitClosing? (closingMark kind) inner with
  | none =>
    ({ kind
       content := String.ofList inner
       raw := String.ofList source
       span := ⟨offset, byteLength source⟩
       terminated := false
       trimBefore
       trimAfter := false }, [])
  | some (inside, after) =>
    let raw := opening ++ inside ++ [closingMark kind, '}']
    let trimAfter := inside.getLast? == some '-'
    ({ kind
       content := String.ofList (if trimAfter then inside.dropLast else inside)
       raw := String.ofList raw
       span := ⟨offset, byteLength raw⟩
       terminated := true
       trimBefore
       trimAfter }, after)

/-- The first token of a source and the rest. -/
def next? (offset : Nat) : List Char → Option (Token × List Char)
  | [] => none
  | c :: rest =>
    match opening? (c :: rest) with
    | some kind => some (markup kind offset (c :: rest))
    | none =>
      let (before, after) := splitText (c :: rest)
      some (text offset before, after)

def scanFrom : (steps offset : Nat) → List Char → List Token
  | 0, _, _ => []
  | steps + 1, offset, source =>
    match next? offset source with
    | none => []
    | some (token, rest) => token :: scanFrom steps (offset + token.span.length) rest

/-- The tokens of a source, with the text as it stands. -/
def scan (source : String) : List Token := scanFrom source.toList.length 0 source.toList

end Token

end Liquid
