import FullText.Decimal.Shortest
import FullText.Ranking
import FullText.Text.Join
import FullText.Text.Quoted
import FullText.Wildcard

/-!
# Loose values

Options and columns may be given as values of any kind; a `Value` is such a value before it has been checked.  The
members of the three choices (wildcard, operator, rank function) are values of their own and also count as their word.
`Value.display` is the text by which an error shows a value.  It writes a whole number with all its digits; that a run
may refuse to write one of more than 4300 digits, or to descend into a value nested too deep, is not modelled.
-/

namespace FullText

open Text

/-- A value that has not been checked. -/
inductive Value where
  | null
  | bool (b : Bool)
  | int (n : Int)
  | float (x : Decimal.Binary64)
  | text (s : String)
  | list (items : List Value)
  | tuple (items : List Value)
  | mapping (entries : List (String × Value))
  | column (c : Column)
  | wildcard (w : Wildcard)
  | operator (o : Operator)
  | rankFunction (f : RankFunction)
  deriving Inhabited

namespace Value

/-- The text that a value is or counts as. -/
def text? : Value → Option String
  | .text s => some s
  | .wildcard w => some w.word
  | .operator o => some o.word
  | .rankFunction f => some f.word
  | _ => none

def isNull : Value → Bool
  | .null => true
  | _ => false

/-- A member of a choice, with the choice's name, its label and its word. -/
def displayMember (choice label word : String) : String := "<" ++ choice ++ "." ++ label ++ ": " ++ quoted word ++ ">"

/-- A column's fields. -/
def displayColumn (c : Column) : String :=
  "ColumnRef(name=" ++ quoted c.name ++ ", table=" ++ (match c.table with | none => "None" | some t => quoted t) ++ ")"

mutual

/-- The text by which a value is shown. -/
def display : Value → String
  | .null => "None"
  | .bool b => if b then "True" else "False"
  | .int n => toString n
  | .float x => Decimal.display x
  | .text s => quoted s
  | .list items => "[" ++ joined ", " (displayItems items) ++ "]"
  | .tuple [item] => "(" ++ display item ++ ",)"
  | .tuple items => "(" ++ joined ", " (displayItems items) ++ ")"
  | .mapping entries => "\x7b" ++ joined ", " (displayEntries entries) ++ "\x7d"
  | .column c => displayColumn c
  | .wildcard w => displayMember "Wildcard" w.label w.word
  | .operator o => displayMember "Operator" o.label o.word
  | .rankFunction f => displayMember "RankFunction" f.label f.word

def displayItems : List Value → List String
  | [] => []
  | item :: rest => display item :: displayItems rest

def displayEntries : List (String × Value) → List String
  | [] => []
  | (key, value) :: rest => (quoted key ++ ": " ++ display value) :: displayEntries rest

end

end Value

end FullText
