import FullText.Sql.Identifier

/-!
# SQL literals

A `Literal` is a text or a whole number.  `Literal.inlined` writes it in the text of a statement, where the apostrophes
and percent signs of a text are doubled; as a parameter it has a type.
-/

namespace FullText.Sql

/-- The types of parameters. -/
inductive ParameterType where
  | varchar | integer | bigint
  deriving DecidableEq, Repr, Inhabited

def ParameterType.word : ParameterType → String
  | .varchar => "VARCHAR"
  | .integer => "INTEGER"
  | .bigint => "BIGINT"

/-- A constant in a statement. -/
inductive Literal where
  | text (s : String)
  | int (n : Int)
  deriving DecidableEq, Repr, Inhabited

namespace Literal

/-- The type of the constant as a parameter; numbers of more than thirty-one bits are large. -/
def type : Literal → ParameterType
  | .text _ => .varchar
  | .int n => if n.natAbs < Nat.pow 2 31 then .integer else .bigint

/-- The characters of a quoted text.  A backslash stands for itself: it is neither doubled nor an escape. -/
def quotedText (cs : List Char) : List Char := '\'' :: doubling (fun c => c = '\'' || c = '%') cs ++ ['\'']

/-- The constant in the text of a statement. -/
def inlined : Literal → String
  | .text s => String.ofList (quotedText s.toList)
  | .int n => toString n

end Literal

end FullText.Sql
