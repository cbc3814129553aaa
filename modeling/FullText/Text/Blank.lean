import FullText.Text.Ranges

/-!
# White space and trimming

`isWhiteSpace` is the Unicode white-space property; `isBlank` adds the four information separators U+001C to U+001F,
which end a name just as a space does.  `trim p` drops the characters of `p` at both ends, `dropEndWhile p` at the end.
-/

namespace FullText.Text

/-- The white-space characters, as ascending ranges of code points. -/
def whiteSpaceRanges : List (Nat × Nat) :=
  [(9, 13), (0x20, 0x20), (0x85, 0x85), (0xA0, 0xA0), (0x1680, 0x1680), (0x2000, 0x200A), (0x2028, 0x2029),
   (0x202F, 0x202F), (0x205F, 0x205F), (0x3000, 0x3000)]

def isWhiteSpace (c : Char) : Bool := covers whiteSpaceRanges c.toNat

/-- White space, or one of the information separators. -/
def isBlank (c : Char) : Bool := isWhiteSpace c || covers [(0x1C, 0x1F)] c.toNat

/-- Drops the longest run of elements satisfying `p` at the end of a list. -/
def dropEndWhile {α : Type} (p : α → Bool) (xs : List α) : List α := (xs.reverse.dropWhile p).reverse

/-- Drops the elements satisfying `p` at both ends of a list. -/
def trim {α : Type} (p : α → Bool) (xs : List α) : List α := dropEndWhile p (xs.dropWhile p)

/-- The text without blanks at its ends. -/
def strip (s : String) : String := String.ofList (trim isBlank s.toList)

end FullText.Text
