import Liquid.Text.Table

/-!
# Space in KDL documents

What may stand between the words of a document. Within a node that is spaces, block comments,
which nest, and a backslash that takes the end of its line with it. Between nodes it is also line
breaks and line comments. A reader here gives the rest after one piece, or nothing if none stands
at the front, and every piece is at least one character long.
-/

namespace Liquid

namespace Kdl

def spaceRanges : List (Nat × Nat) :=
  [(0x09, 0x09), (0x20, 0x20), (0xA0, 0xA0), (0x1680, 0x1680), (0x2000, 0x200A),
   (0x202F, 0x202F), (0x205F, 0x205F), (0x3000, 0x3000)]

def newlineRanges : List (Nat × Nat) := [(0x0A, 0x0D), (0x85, 0x85), (0x2028, 0x2029)]

/-- Controls, marks that change the direction of text, and the byte order mark. Outside comments
they may only be written as escapes. -/
def barredRanges : List (Nat × Nat) :=
  [(0x00, 0x08), (0x0E, 0x1F), (0x7F, 0x7F), (0x200E, 0x200F), (0x202A, 0x202E),
   (0x2066, 0x2069), (0xFEFF, 0xFEFF)]

def isSpace (c : Char) : Bool := Text.inRanges spaceRanges c.toNat

def isNewline (c : Char) : Bool := Text.inRanges newlineRanges c.toNat

def isBarred (c : Char) : Bool := Text.inRanges barredRanges c.toNat

/-! ### Single pieces -/

/-- A carriage return and the line feed behind it are one line break. -/
def afterNewline? : List Char → Option (List Char)
  | '\r' :: '\n' :: rest => some rest
  | c :: rest => if isNewline c then some rest else none
  | [] => none

/-- The rest after the line, of which the line break is a part. -/
def afterLine (s : List Char) : List Char :=
  let rest := s.dropWhile fun c => !isNewline c
  (afterNewline? rest).getD rest

def afterLineComment? : List Char → Option (List Char)
  | '/' :: '/' :: rest => some (afterLine rest)
  | _ => none

/-- The rest after the end of a block comment that is open once more than `depth` times. -/
def afterComment? : (depth : Nat) → List Char → Option (List Char)
  | 0, '*' :: '/' :: rest => some rest
  | depth + 1, '*' :: '/' :: rest => afterComment? depth rest
  | depth, '/' :: '*' :: rest => afterComment? (depth + 1) rest
  | depth, _ :: rest => afterComment? depth rest
  | _, [] => none

def afterBlank? : List Char → Option (List Char)
  | '/' :: '*' :: rest => afterComment? 0 rest
  | c :: rest => if isSpace c then some rest else none
  | [] => none

/-! ### Runs of pieces -/

/-- Skips one piece after the other; a number of steps for each character is enough. -/
def skipFrom (after? : List Char → Option (List Char)) : (steps : Nat) → List Char → List Char
  | 0, s => s
  | steps + 1, s =>
    match after? s with
    | some rest => skipFrom after? steps rest
    | none => s

def skip (after? : List Char → Option (List Char)) (s : List Char) : List Char :=
  skipFrom after? s.length s

/-- A backslash at the end of its line, or of the document. A line comment may come between. -/
def afterContinuation? : List Char → Option (List Char)
  | '\\' :: rest =>
    match skip afterBlank? rest with
    | [] => some []
    | s => (afterLineComment? s).or (afterNewline? s)
  | _ => none

def afterNodeSpace? (s : List Char) : Option (List Char) :=
  (afterBlank? s).or (afterContinuation? s)

def afterLineSpace? (s : List Char) : Option (List Char) :=
  (afterNodeSpace? s).or ((afterNewline? s).or (afterLineComment? s))

def skipNodeSpace (s : List Char) : List Char := skip afterNodeSpace? s

def skipLineSpace (s : List Char) : List Char := skip afterLineSpace? s

end Kdl

end Liquid
