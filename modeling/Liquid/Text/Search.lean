/-!
# Finding and splitting

Occurrences of a pattern are found from the left and do not overlap. Splitting a text at them is
the basic operation: joining the pieces again with another text in between replaces the pattern.
-/

namespace Liquid.Text

/-- The text in front of the first occurrence, and what follows that occurrence. -/
def cutAt? (pattern : List Char) : List Char → Option (List Char × List Char)
  | [] => if pattern.isEmpty then some ([], []) else none
  | c :: rest =>
    if pattern.isPrefixOf (c :: rest) then some ([], (c :: rest).drop pattern.length)
    else (cutAt? pattern rest).map fun (before, after) => (c :: before, after)

def occursIn (pattern s : List Char) : Bool := (cutAt? pattern s).isSome

/-- The pieces between the occurrences. Each occurrence takes a character at least, so the length
of the text bounds their number. -/
def piecesWithin (pattern : List Char) : (count : Nat) → List Char → List (List Char)
  | 0, s => [s]
  | count + 1, s =>
    match cutAt? pattern s with
    | none => [s]
    | some (before, after) => before :: piecesWithin pattern count after

def pieces (pattern s : List Char) : List (List Char) := piecesWithin pattern s.length s

end Liquid.Text

namespace Liquid

def containsText (s pattern : String) : Bool := Text.occursIn pattern.toList s.toList

/-- A non-empty pattern cuts the text into what stands between its occurrences. -/
def splitText (s pattern : String) : List String :=
  (Text.pieces pattern.toList s.toList).map String.ofList

def replaceText (s pattern replacement : String) : String :=
  replacement.intercalate (splitText s pattern)

end Liquid
