import Liquid.Text.Table

/-!
# White space

The characters with the `White_Space` property, and trimming by them. The markup scanner skips
these characters; conditions are cut into words at the smaller ASCII set.
-/

namespace Liquid.Text

def blankRanges : List (Nat × Nat) :=
  [(0x09, 0x0D), (0x20, 0x20), (0x85, 0x85), (0xA0, 0xA0), (0x1680, 0x1680), (0x2000, 0x200A),
   (0x2028, 0x2029), (0x202F, 0x202F), (0x205F, 0x205F), (0x3000, 0x3000)]

def isBlank (c : Char) : Bool := inRanges blankRanges c.toNat

/-- Space, tab, line feed, form feed and carriage return. -/
def isAsciiBlank (c : Char) : Bool :=
  c == ' ' || c == '\t' || c == '\n' || c == '\x0C' || c == '\r'

theorem isBlank_of_isAsciiBlank {c : Char} (h : isAsciiBlank c = true) : isBlank c = true := by
  simp only [isAsciiBlank, Bool.or_eq_true, beq_iff_eq] at h
  rcases h with (((rfl | rfl) | rfl) | rfl) | rfl <;> decide

/-! ### Trimming -/

def dropBlank (s : List Char) : List Char := s.dropWhile isBlank

/-- The text without the longest tail of characters in the class. -/
def dropTail (p : Char → Bool) (s : List Char) : List Char := (s.reverse.dropWhile p).reverse

def dropBlankTail (s : List Char) : List Char := dropTail isBlank s

def trim (s : List Char) : List Char := dropBlankTail (dropBlank s)

theorem dropBlank_length_le (s : List Char) : (dropBlank s).length ≤ s.length :=
  (List.dropWhile_suffix isBlank).length_le

@[simp] theorem dropBlank_nil : dropBlank [] = [] := rfl

end Liquid.Text

namespace Liquid

def trimText (s : String) : String := String.ofList (Text.trim s.toList)

/-- Nothing but white space. -/
def isBlankText (s : String) : Bool := s.toList.all Text.isBlank

end Liquid
