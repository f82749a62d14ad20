import Liquid.Document.Block

/-!
# From tokens to a document

Text and variables become nodes. A tag is first compared with the end tag of the innermost block,
then looked up among the known tags, and else offered to the block itself. At the end of the
source no block may be open.
-/

namespace Liquid

open Text

/-- The name of a tag is made of letters, numerals and underscores. -/
def isTagNameChar (c : Char) : Bool := isAlphanumeric c || c == '_'

/-- The name and the markup of a tag; a tag without a name counts as not terminated. -/
def Header.ofToken (t : Token) : Except Fault Header :=
  let inner := trim t.content.toList
  let name := inner.takeWhile isTagNameChar
  if !t.terminated || name.isEmpty then .error (.tagNotTerminated t.raw)
  else
    .ok
      { name := String.ofList name
        markup := String.ofList (trim (inner.dropWhile isTagNameChar))
        span := t.span }

/-- The fault of an expression in a markup. -/
def Fault.ofMarkup (e : MarkupError) (markup : String) : Fault :=
  .expression e.message (trimText markup)

namespace Building

variable (tags : Bindings TagReader) (template : String)

/-- The place of a fault, if any. -/
def located {α : Type} (span : Span) : Except Fault α → Except SyntaxError α
  | .ok a => .ok a
  | .error fault => .error ⟨fault, template, span⟩

def output (t : Token) : Except Fault Node :=
  if !t.terminated then .error (.variableNotTerminated t.raw)
  else
    match Variable.parse t.content with
    | .ok v => .ok (.output t.span (trimText t.content) v)
    | .error e => .error (Fault.ofMarkup e t.content)

/-- A tag that does not close the innermost block. -/
def otherTag (b : Building) (header : Header) : Except SyntaxError Building :=
  located template header.span <|
    match tags.get? header.name with
    | some reader => b.openTag template header reader
    | none => b.unknown header

def tag (b : Building) (header : Header) : Except SyntaxError Building :=
  match b.blocks with
  | [] => otherTag tags template b header
  | block :: outer =>
    if header.name = block.delimiter then
      located template block.header.span (b.closeBlock block outer)
    else otherTag tags template b header

def step (b : Building) (t : Token) : Except SyntaxError Building :=
  match t.kind with
  | .text => .ok (if t.content.isEmpty then b else b.add (.text t.span t.content))
  | .variable => (located template t.span (output t)).map b.add
  | .tag =>
    match located template t.span (Header.ofToken t) with
    | .ok header => tag tags template b header
    | .error e => .error e

def build (b : Building) : List Token → Except SyntaxError Building
  | [] => .ok b
  | t :: rest =>
    match step tags template b t with
    | .ok b => build b rest
    | .error e => .error e

/-- The nodes, once every block is closed. -/
def finish (b : Building) : Except SyntaxError (List Node) :=
  match b.blocks with
  | [] => .ok b.nodes.reverse
  | block :: _ => .error ⟨.blockNotClosed block.name, template, block.header.span⟩

end Building

def Document.parse (tags : Bindings TagReader) (template source : String) :
    Except SyntaxError Document := do
  let b ← Building.build tags template Building.empty (Token.tokenize source)
  return ⟨← b.finish template, ⟨0, source.utf8ByteSize⟩⟩

end Liquid
