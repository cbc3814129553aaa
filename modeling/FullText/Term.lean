/-!
# Search terms

A `Term` is one word of a search; a marked term matches every word that it is a prefix of.  `Term.lexeme` is its text
inside a tsquery: between apostrophes, with backslash and apostrophe doubled, and `:*` after a marked one.
-/

namespace FullText

/-- A search term, marked when it is to match as a prefix. -/
structure Term where
  text : String
  marked : Bool := false
  deriving DecidableEq, Repr, Inhabited

/-- A character inside the apostrophes of a lexeme. -/
def lexemeChar (c : Char) : List Char := if c = '\\' || c = '\'' then [c, c] else [c]

namespace Term

/-- The term as a prefix match. -/
def mark (t : Term) : Term := { t with marked := true }

/-- What follows the text of a marked term. -/
def suffix (t : Term) : String := if t.marked then ":*" else ""

/-- The term as it stands in the text of a tsquery. -/
def lexeme (t : Term) : String := "'" ++ String.ofList (t.text.toList.flatMap lexemeChar) ++ "'" ++ t.suffix

/-- The term as it is shown to a reader. -/
def display (t : Term) : String := t.text ++ t.suffix

@[simp] theorem text_mark (t : Term) : t.mark.text = t.text := rfl

@[simp] theorem marked_mark (t : Term) : t.mark.marked = true := rfl

@[simp] theorem mark_mark (t : Term) : t.mark.mark = t.mark := rfl

end Term

end FullText
