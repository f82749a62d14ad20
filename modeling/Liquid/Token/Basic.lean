/-!
# Tokens

A template is a row of tokens: plain text, tags between `{%` and `%}`, and variables between
`{{` and `}}`. A token knows the exact source it stands for and where that lies, counted in
bytes of UTF-8.
-/

namespace Liquid

/-- A stretch of the source, in bytes. -/
structure Span where
  offset : Nat
  length : Nat
deriving Repr, DecidableEq, Inhabited

inductive TokenKind where
  | text
  | tag
  | variable
deriving Repr, DecidableEq

structure Token where
  kind : TokenKind
  /-- The text, or what stands between the delimiters without the trim marks. -/
  content : String
  /-- The exact source, delimiters included. -/
  raw : String
  span : Span
  /-- A closing delimiter was found. -/
  terminated : Bool
  /-- A `-` follows the opening delimiter. -/
  trimBefore : Bool
  /-- A `-` stands before the closing delimiter. -/
  trimAfter : Bool
deriving Repr, DecidableEq

/-- The length in bytes of UTF-8. -/
def byteLength : List Char → Nat
  | [] => 0
  | c :: rest => c.utf8Size + byteLength rest

@[simp] theorem byteLength_nil : byteLength [] = 0 := rfl

@[simp] theorem byteLength_append (s t : List Char) :
    byteLength (s ++ t) = byteLength s + byteLength t := by
  induction s with
  | nil => simp
  | cons c rest ih => simp [byteLength, ih, Nat.add_assoc]

theorem byteLength_eq (s : List Char) : byteLength s = (String.ofList s).utf8ByteSize := by
  induction s with
  | nil => rfl
  | cons c rest ih => simp_all [byteLength]

end Liquid
